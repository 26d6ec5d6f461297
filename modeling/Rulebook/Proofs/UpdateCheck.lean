import Rulebook.Proofs.Running
import Rulebook.Proofs.Text.Utf8
import Rulebook.Proofs.Version
import Rulebook.UpdateCheck

namespace Rulebook

open Running

variable {σ : Type}

/-- The reply reports success and brings the text in UTF-8. -/
def Reply.Brings (reply : Reply) (text : String) : Prop :=
  ∃ status, 200 ≤ status ∧ status < 300 ∧ reply = .response status text.toUTF8.data.toList

/-- The reply brings a list of versions whose first item has the name. -/
def Reply.Announces (reply : Reply) (name : String) : Prop :=
  name ≠ "" ∧ ∃ text loop own members rest, reply.Brings text ∧
    Json.read text = .ok (.list loop (.map own members :: rest)) ∧
    (Value.map own members).get? "name" = some (.text name)

/-- The reply is one that a check is ready for: it does not break the check off, and what it brings
is not nested too deep. -/
structure Reply.IsExpected (reply : Reply) : Prop where
  calm : ∀ message, reply ≠ .crash message
  shallow : ∀ text isObject, reply.Brings text → Json.read text ≠ .error (.tooDeep isObject)

/-- The reply to asking for the list of versions; `none` if its text is no address. -/
def VersionList.reply? (list : VersionList) (network : Network) : Option Reply :=
  (Address.request? list.url).toOption.map network

theorem Download.textOf_eq_ok_iff (url : String) {text : String} {reply : Reply} :
    textOf url reply = .ok text ↔ reply.Brings text := by
  constructor
  · intro brought
    match reply with
    | .crash message | .failure kind message => cases brought
    | .response status body =>
        rw [textOf] at brought
        split at brought
        · cases brought
        · rename_i success
          split at brought
          · rename_i chars decoded
            cases brought
            rw [not_or, not_lt, not_le] at success
            exact ⟨status, success.1, success.2,
              congrArg (Reply.response status) (Text.utf8Decode_eq_ok_iff.mp decoded)⟩
          · cases brought
  · rintro ⟨status, least, most, rfl⟩
    have decoded : Text.utf8Decode text.toUTF8.data.toList = .ok text.toList :=
      Text.utf8Decode_eq_ok_iff.mpr (by rw [String.ofList_toList])
    rw [textOf, if_neg (by omega), decoded]
    exact congrArg Except.ok String.ofList_toList

theorem Reply.Brings.unique {reply : Reply} {text other : String} (brought : reply.Brings text)
    (again : reply.Brings other) : text = other :=
  Except.ok.inj (((Download.textOf_eq_ok_iff "").mpr brought).symm.trans
    ((Download.textOf_eq_ok_iff "").mpr again))

theorem Download.eq_crash_of_textOf {url message : String} {reply : Reply}
    (broken : textOf url reply = .error (.crashed message)) : reply = .crash message := by
  match reply with
  | .crash text =>
      cases broken
      rfl
  | .failure kind text => cases broken
  | .response status body =>
      rw [textOf] at broken
      split at broken
      · cases broken
      · split at broken <;> cases broken

namespace UpdateCheck

/-- The version is what a name tells, less one letter `v` before it. -/
def IsNamed (name version : String) : Prop :=
  name = "v" ++ version ∨ ¬ ['v'] <+: name.toList ∧ version = name

theorem isNamed_iff {name version : String} : IsNamed name version ↔
    (if name.startsWith "v" then String.ofList (name.toList.drop 1) else name) = version := by
  have mark : name.startsWith "v" = true ↔ ['v'] <+: name.toList := by simp
  by_cases marked : ['v'] <+: name.toList
  · obtain ⟨rest, split⟩ := marked
    have start : name.startsWith "v" = true := mark.mpr ⟨rest, split⟩
    have named : name = "v" ++ version ↔ String.ofList rest = version := by
      rw [← String.toList_inj, String.toList_append, ← split, ← String.toList_inj]
      simp
    rw [IsNamed, if_pos start, ← split, named]
    simp
  · have start : ¬ name.startsWith "v" = true := mark.not.mpr marked
    have unnamed : name ≠ "v" ++ version := by
      rintro rfl
      exact marked (by simp)
    rw [IsNamed, if_neg start]
    simp [unnamed, marked, eq_comm]

/-- A version is told exactly by a list whose first item is an object with a name. -/
theorem newestName?_eq_some_iff {versions : Value} {version : String} :
    newestName? versions = some version ↔ ∃ loop own members rest name,
      versions = .list loop (.map own members :: rest) ∧
      (Value.map own members).get? "name" = some (.text name) ∧ name ≠ "" ∧
      IsNamed name version := by
  constructor
  · intro found
    unfold newestName? at found
    split at found
    · rename_i loop first rest
      split at found
      · rename_i name held
        split at found
        · cases found
        · rename_i nonempty
          rw [← apply_ite some, Option.some.injEq] at found
          cases first with
          | map own members =>
              exact ⟨loop, own, members, rest, name, rfl, held, nonempty, isNamed_iff.mpr found⟩
          | _ => cases held
      · cases found
    · cases found
  · rintro ⟨loop, own, members, rest, name, rfl, held, nonempty, named⟩
    simp only [newestName?, held, if_neg nonempty]
    rw [← apply_ite some, isNamed_iff.mp named]

/-- A reply announces what is told by the list that it brings. -/
theorem announces_iff {reply : Reply} {text version : String} (brought : reply.Brings text) :
    (∃ name, reply.Announces name ∧ IsNamed name version) ↔
      ∃ versions, Json.read text = .ok versions ∧ newestName? versions = some version := by
  simp only [newestName?_eq_some_iff]
  constructor
  · rintro ⟨name, ⟨nonempty, again, loop, own, members, rest, broughtAgain, read, held⟩, named⟩
    obtain rfl := brought.unique broughtAgain
    exact ⟨_, read, loop, own, members, rest, name, rfl, held, nonempty, named⟩
  · rintro ⟨_, read, loop, own, members, rest, name, rfl, held, nonempty, named⟩
    exact ⟨name, ⟨nonempty, text, loop, own, members, rest, brought, read, held⟩, named⟩

/-- Where the reply is expected, a version is found exactly if the reply announces one. -/
theorem newest?_on (list : VersionList) (network : Network) (run : Run σ)
    (expected : ∀ reply ∈ list.reply? network, reply.IsExpected) :
    ∃ found after, on (newest? list network) run = (.ok found, after) ∧
      ∀ version, found = some version ↔
        ∃ reply ∈ list.reply? network, ∃ name, reply.Announces name ∧ IsNamed name version := by
  simp only [newest?, on_bind, on_download, Download.run]
  cases asked : Address.request? list.url with
  | error problem =>
      have unasked : list.reply? network = none := by
        rw [VersionList.reply?, asked]
        rfl
      exact ⟨none, _, rfl, by simp [unasked]⟩
  | ok address =>
      have reached : list.reply? network = some (network address) := by
        rw [VersionList.reply?, asked]
        rfl
      obtain ⟨calm, shallow⟩ := expected _ reached
      simp only [reached, Option.mem_some_iff, exists_eq_left']
      cases brought : Download.textOf list.url (network address) with
      | ok text =>
          rw [Download.textOf_eq_ok_iff] at brought
          simp only [announces_iff brought]
          cases read : Json.read text with
          | ok versions => exact ⟨newestName? versions, _, rfl, by simp⟩
          | error error =>
              cases error with
              | tooDeep isObject => exact absurd read (shallow text isObject brought)
              | malformed problem position => exact ⟨none, _, rfl, by simp⟩
              | tooManyDigits count => exact ⟨none, _, rfl, by simp⟩
      | error failure =>
          have silent : ∀ text, ¬ (network address).Brings text := fun text brings => by
            rw [← Download.textOf_eq_ok_iff list.url, brought] at brings
            cases brings
          have unannounced : ∀ name, ¬ (network address).Announces name :=
            fun name ⟨_, text, _, _, _, _, brings, _⟩ => silent text brings
          cases failure with
          | failed error => exact ⟨none, _, rfl, by simp [unannounced]⟩
          | crashed message => exact absurd (Download.eq_crash_of_textOf brought) (calm message)

/-- A check whose reply is expected ends with an answer. It tells a version exactly if the reply
announces one, and an update exactly if that version and the current one are versions and the first
one comes after the other in the lexicographic order of their numbers. -/
theorem run_advises (list : VersionList) (network : Network) (current : String) (run : Run σ)
    (expected : ∀ reply ∈ list.reply? network, reply.IsExpected) :
    ∃ check after, on (UpdateCheck.run list network current) run = (.ok check, after) ∧
      (∀ version, check.newVersion = some version ↔
        ∃ reply ∈ list.reply? network, ∃ name, reply.Announces name ∧ IsNamed name version) ∧
      (check.hasUpdate = true ↔ ∃ version left right, check.newVersion = some version ∧
        Version.parse? version = some left ∧ Version.parse? current = some right ∧
        right.lexicographic < left.lexicographic) := by
  obtain ⟨found, after, ran, told⟩ := newest?_on list network run expected
  cases found with
  | none =>
      refine ⟨⟨false, none⟩, after, ?_, told, by simp⟩
      rw [UpdateCheck.run, on_bind, ran]
      rfl
  | some version =>
      refine ⟨⟨Version.isNewer version current, some version⟩, after, ?_, told, ?_⟩
      · rw [UpdateCheck.run, on_bind, ran]
        rfl
      · simp [Version.isNewer_iff]

namespace Sample

/-- A list of versions, the first of which is the tenth after the first one. -/
def listing : String := "[\x7b\"name\": \"v1.10.0\"\x7d, 7]"

def network : Network := fun _ => .response 200 listing.toUTF8.data.toList

theorem read_listing : Json.read listing =
    .ok (.list none [.map none [(.text "name", .text "v1.10.0")], .int 7]) := by
  rfl

/-- The version is told without its letter, and as an update of one that is after it as a text. -/
theorem newer_version_told :
    (∀ reply ∈ VersionList.reply? ⟨"https://api.example.test/tags", .decimal 20⟩ network,
      reply.IsExpected) ∧
    ∃ check, (on (UpdateCheck.run ⟨"https://api.example.test/tags", .decimal 20⟩ network "1.9.9")
      ⟨(), [], []⟩).1 = .ok check ∧ check.newVersion = some "1.10.0" ∧ check.hasUpdate = true := by
  have brought : (network "").Brings listing := ⟨200, le_rfl, by decide, rfl⟩
  have expected :
      ∀ reply ∈ VersionList.reply? ⟨"https://api.example.test/tags", .decimal 20⟩ network,
        reply.IsExpected := by
    intro reply asked
    obtain ⟨address, -, rfl⟩ := Option.map_eq_some_iff.mp asked
    refine ⟨nofun, fun text isObject again deep => ?_⟩
    obtain rfl := Reply.Brings.unique brought again
    rw [read_listing] at deep
    cases deep
  obtain ⟨check, after, ran, told, updated⟩ := run_advises
    ⟨"https://api.example.test/tags", .decimal 20⟩ network "1.9.9" ⟨(), [], []⟩ expected
  have announced : (network "").Announces "v1.10.0" :=
    ⟨by decide, listing, _, _, _, _, brought, read_listing, rfl⟩
  have version : check.newVersion = some "1.10.0" :=
    (told "1.10.0").mpr ⟨_, rfl, "v1.10.0", announced, .inl rfl⟩
  refine ⟨expected, check, by rw [ran], version, updated.mpr ?_⟩
  exact ⟨"1.10.0", ⟨1, 10, 0⟩, ⟨1, 9, 9⟩, version, by decide, by decide, by decide⟩

end Sample

end UpdateCheck

end Rulebook
