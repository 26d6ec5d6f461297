import Rulebook.Path
import Rulebook.Proofs.Text

namespace Rulebook

namespace Path

/-- The path has one of the three roots, and each of its segments is a name. -/
structure Proper (path : Path) : Prop where
  root : path.root = "" ∨ path.root = "/" ∨ path.root = "//"
  segments : ∀ segment ∈ path.segments, isSegment segment.toList ∧ '/' ∉ segment.toList

/-- The segments as they stand in the text of a path. -/
def joined (path : Path) : List Char := ['/'].intercalate (path.segments.map String.toList)

variable {path : Path}

theorem joined_head (proper : path.Proper) : '/' ∉ path.joined.head? := by
  obtain ⟨root, segments⟩ := path
  cases segments with
  | nil => simp [joined]
  | cons first rest =>
      obtain ⟨named, single⟩ := proper.segments first (by simp)
      cases chars : first.toList with
      | nil => simp [chars, isSegment] at named
      | cons c more =>
          have other : c ≠ '/' := fun same => single (by simp [chars, same])
          cases rest <;> simp [joined, chars, other]

theorem split_joined (proper : path.Proper) :
    (Text.splitAt '/' path.joined).filter isSegment = path.segments.map String.toList := by
  have named : ∀ chars ∈ path.segments.map String.toList, isSegment chars ∧ '/' ∉ chars := by
    intro chars member
    obtain ⟨segment, inPath, rfl⟩ := List.mem_map.mp member
    exact proper.segments segment inPath
  by_cases empty : path.segments = []
  · simp [joined, empty, Text.splitAt, isSegment]
  · have split := List.splitOn_intercalate '/' (fun chars member => (named chars member).2)
      (by simpa using empty)
    rw [joined, Text.splitAt_eq_splitOn, split]
    exact List.filter_eq_self.mpr fun chars member => (named chars member).1

theorem split_slashes (count : Nat) (text : List Char) :
    (Text.splitAt '/' (List.replicate count '/' ++ text)).filter isSegment =
      (Text.splitAt '/' text).filter isSegment := by
  induction count with
  | zero => rfl
  | succ count ih => simpa [List.replicate_succ, Text.splitAt, isSegment] using ih

theorem takeWhile_slashes {text : List Char} (count : Nat) (head : '/' ∉ text.head?) :
    ((List.replicate count '/' ++ text).takeWhile (· == '/')).length = count := by
  induction count with
  | zero =>
      cases text with
      | nil => rfl
      | cons c rest => simp [show c ≠ '/' by simpa using head]
  | succ count ih => simpa [List.replicate_succ] using ih

theorem parse_slashes (proper : path.Proper) (count : Nat) {text : String}
    (chars : text.toList = List.replicate count '/' ++ path.joined) :
    parse text = ⟨if count = 0 then "" else if count = 2 then "//" else "/", path.segments⟩ := by
  have segments : (path.segments.map String.toList).map String.ofList = path.segments := by simp
  simp only [parse, chars, takeWhile_slashes count (joined_head proper), split_slashes,
    split_joined proper, segments]

theorem parse_toText (proper : path.Proper) : parse path.toText = path := by
  have written : (path.root ++ "/".intercalate path.segments).toList =
      path.root.toList ++ path.joined := by
    simp [joined, String.toList_intercalate]
  by_cases blank : path.root ++ "/".intercalate path.segments = ""
  · rw [toText, if_pos blank]
    rw [blank] at written
    obtain ⟨noRoot, noSegments⟩ := List.append_eq_nil_iff.mp written.symm
    have segments : path.segments.map String.toList = [] := by
      rw [← split_joined proper, noSegments]
      rfl
    obtain ⟨root, names⟩ := path
    obtain rfl : root = "" := by simpa using noRoot
    obtain rfl : names = [] := by simpa using segments
    decide
  · obtain ⟨count, slashes, root⟩ : ∃ count, path.root.toList = List.replicate count '/' ∧
        (if count = 0 then "" else if count = 2 then "//" else "/") = path.root := by
      rcases proper.root with none | one | two
      · exact ⟨0, by simp [none], none.symm⟩
      · exact ⟨1, by simp [one], one.symm⟩
      · exact ⟨2, by simp [two], two.symm⟩
    rw [slashes] at written
    rw [toText, if_neg blank, parse_slashes proper count written, root]

theorem toText_injective {other : Path} (proper : path.Proper) (otherProper : other.Proper)
    (same : path.toText = other.toText) : path = other := by
  rw [← parse_toText proper, same, parse_toText otherProper]

/-- The home directory of a user, and with no name that of the current one. -/
def Homes.of? (homes : Homes) (user : String) : Option String :=
  if user = "" then some homes.own else homes.users.lookup user

/-- The path has a tilde in front, for a home directory that is unknown or starts with a tilde
itself. -/
def LacksHome (homes : Homes) (path : Path) : Prop :=
  path.root = "" ∧ ∃ user rest, path.segments = ("~" ++ user) :: rest ∧
    ∀ home, homes.of? user = some home → ['~'] <+: home.toList

variable {homes : Homes}

theorem trimmed_home_iff (home : String) :
    let trimmed := String.ofList (Text.trimEnd (· == '/') home.toList)
    (if trimmed = "" then "/" else trimmed).startsWith "~" = true ↔ ['~'] <+: home.toList := by
  intro trimmed
  have same : ['~'] <+: trimmed.toList ↔ ['~'] <+: home.toList := by
    rw [String.toList_ofList]
    constructor
    · exact fun before => before.trans (Text.trimEnd_prefix _ _)
    · rintro ⟨rest, split⟩
      rw [← split, List.singleton_append, Text.trimEnd_cons (by decide)]
      simp
  split
  · rename_i none
    rw [← same, none]
    simp
  · rw [← same]
    simp

theorem expandHome_tilde_eq_none_iff (user : String) (rest : List String) :
    expandHome homes ⟨"", ("~" ++ user) :: rest⟩ = none ↔
      ∀ home, homes.of? user = some home → ['~'] <+: home.toList := by
  have spelled : ("~" ++ user).toList = '~' :: user.toList := by simp
  have known : (if user.toList = [] then some homes.own else
      homes.users.lookup (String.ofList user.toList)) = homes.of? user := by
    simp [Homes.of?]
  rw [expandHome]
  simp only [isAbsolute, spelled, known]
  cases homes.of? user with
  | none => simp
  | some home => simp [← trimmed_home_iff home]

theorem expandHome_of_plain (plain : ∀ user rest, path.segments ≠ ("~" ++ user) :: rest) :
    expandHome homes path = some path := by
  obtain ⟨root, segments⟩ := path
  match segments with
  | [] => rfl
  | first :: rest =>
      have unmarked : ∀ user, first.toList ≠ '~' :: user := by
        intro user spelled
        refine plain (String.ofList user) rest ?_
        rw [List.cons.injEq, ← String.toList_inj, spelled]
        simp
      simp only [expandHome]
      split <;> rfl

theorem expandHome_eq_none_iff : expandHome homes path = none ↔ path.LacksHome homes := by
  by_cases tilde : ∃ user rest, path.segments = ("~" ++ user) :: rest
  · obtain ⟨user, rest, segments⟩ := tilde
    obtain ⟨root, _⟩ := path
    subst segments
    by_cases relative : root = ""
    · subst relative
      simp [expandHome_tilde_eq_none_iff, LacksHome]
    · simp [expandHome, LacksHome, isAbsolute, relative]
  · have plain : ∀ user rest, path.segments ≠ ("~" ++ user) :: rest :=
      fun user rest segments => tilde ⟨user, rest, segments⟩
    rw [expandHome_of_plain plain]
    exact iff_of_false (by simp) fun ⟨_, user, rest, segments, _⟩ => plain user rest segments

end Path

end Rulebook
