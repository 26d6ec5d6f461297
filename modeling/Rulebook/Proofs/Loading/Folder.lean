import Rulebook.Proofs.Cache.Sharing
import Rulebook.Proofs.Manager.Loading

/-!
Where the files of built-in sources are. A way from a folder leaves some of the folder's own
directories and ends with names (`landing_eq_take`), so that it comes back exactly if these begin
with the directories it has left (`prefix_landing_iff`). The name of a source is such a way from the
built-in folder.
-/

namespace Rulebook

namespace Files

/-- How many levels above its start a way goes at most. -/
def climb : List String → Nat
  | [] => 0
  | segment :: rest => if segment = ".." then climb rest + 1 else climb rest - 1

/-- The place is inside the folder, at any depth. -/
def IsBelow (folder place : List String) : Prop := folder <+: place ∧ place ≠ folder

/-- The way from the folder leaves none of its directories, or names again those that it has left:
what remains of the way after its double dots begins with them. -/
def Returns (folder way : List String) : Prop :=
  folder.drop (folder.length - climb way) <+: landing [] way

/-- The path leads to a file at the place, and it is the one that is read. -/
structure LeadsToFile (files : Files) (path : Path) (place : List String) : Prop where
  located : ∃ entry, files.locate path = .ok (place, some entry) ∧
    entry ≠ .directory ∧ entry ≠ .loop
  read : ∀ content, files.entryAt place = some (.file content) → files.read path = .ok content

instance (folder place : List String) : Decidable (IsBelow folder place) :=
  inferInstanceAs (Decidable (_ ∧ _))

instance (folder way : List String) : Decidable (Returns folder way) :=
  inferInstanceAs (Decidable (_ <+: _))

variable {files : Files} {folder place way : List String} {base path : Path}

/-- A way climbs as far as double dots exceed the names in one of its beginnings. -/
theorem climb_le_iff {levels : Nat} : climb way ≤ levels ↔
    ∀ taken, taken <+: way → 2 * taken.count ".." ≤ taken.length + levels := by
  induction way generalizing levels with
  | nil => simp [climb]
  | cons segment rest ih =>
      -- What is taken of the way is nothing, or its first segment and a part of the rest.
      have split : (∀ taken, taken <+: segment :: rest →
          2 * taken.count ".." ≤ taken.length + levels) ↔
          ∀ more, more <+: rest →
            2 * (segment :: more).count ".." ≤ (segment :: more).length + levels := by
        simp only [List.prefix_cons_iff]
        constructor
        · intro bounded more before
          exact bounded _ (.inr ⟨more, rfl, before⟩)
        · rintro bounded taken (rfl | ⟨more, rfl, before⟩)
          · simp
          · exact bounded more before
      rw [split, climb]
      by_cases up : segment = ".."
      · subst up
        cases levels with
        | zero =>
            refine iff_of_false (by simp) fun bounded => ?_
            simpa using bounded [] List.nil_prefix
        | succ levels =>
            rw [if_pos rfl, Nat.add_le_add_iff_right, ih]
            refine forall_congr' fun more => imp_congr_right fun _ => ?_
            simp only [List.count_cons_self, List.length_cons]
            omega
      · rw [if_neg up, Nat.sub_le_iff_le_add, ih]
        refine forall_congr' fun more => imp_congr_right fun _ => ?_
        simp only [List.count_cons_of_ne up, List.length_cons]
        omega

theorem climb_eq_zero_iff :
    climb way = 0 ↔ ∀ taken, taken <+: way → 2 * taken.count ".." ≤ taken.length :=
  Nat.le_zero.symm.trans climb_le_iff

theorem landing_append (start first second : List String) :
    landing start (first ++ second) = landing (landing start first) second :=
  List.foldl_append

/-- A way keeps of its start what it does not climb over. What it adds is the same from anywhere. -/
theorem landing_eq_take (start way : List String) :
    landing start way = start.take (start.length - climb way) ++ landing [] way := by
  induction way generalizing start with
  | nil => simp [landing, climb]
  | cons segment rest ih =>
      have followed (place : List String) :
          landing place (segment :: rest) = landing (step place segment) rest := rfl
      rw [followed, followed, ih, ih (step [] segment), ← List.append_assoc, climb]
      refine congrArg (· ++ landing [] rest) ?_
      by_cases up : segment = ".."
      · simp only [step, up, if_true, List.dropLast_eq_take, List.take_take, List.length_take,
          List.take_nil, List.append_nil]
        congr 1
        omega
      · simp only [step, up, if_false, List.take_append, List.length_append, List.length_singleton]
        have whole : start.take (start.length + 1) = start := List.take_of_length_le (by simp)
        cases climb rest <;> simp [whole]

theorem prefix_landing_iff : folder <+: landing folder way ↔ Returns folder way := by
  -- Both sides begin with the directories of the folder that the way does not climb over.
  have split := List.take_append_drop (folder.length - climb way) folder
  rw [Returns, landing_eq_take]
  nth_rewrite 1 [← split]
  exact List.prefix_append_right_inj _

section Level

variable (level : ∀ taken, taken <+: way → 2 * taken.count ".." ≤ taken.length)

include level

/-- A way on which there are never more double dots than names leaves no directory. -/
theorem returns_of_level : Returns folder way := by
  rw [Returns, climb_eq_zero_iff.mpr level, Nat.sub_zero, List.drop_length]
  exact List.nil_prefix

theorem landing_of_level : landing folder way = folder ++ landing [] way := by
  rw [landing_eq_take, climb_eq_zero_iff.mpr level, Nat.sub_zero, List.take_length]

end Level

theorem named_join (relative : path.isAbsolute = false) :
    (files.named (base.join path)).segments =
      landing (files.named base).segments path.segments := by
  rw [Path.join, relative, named_segments, named_segments, ← landing_append]
  rfl

theorem locate_of_isFile (there : files.isFile path = .ok true) :
    ∃ place entry, files.locate path = .ok (place, some entry) ∧
      entry ≠ .directory ∧ entry ≠ .loop := by
  unfold isFile status? status at there
  split at there
  · cases there
  · match located : files.locate path with
    | .ok (place, some (.file _)) | .ok (place, some (.database _)) =>
        exact ⟨place, _, rfl, nofun, nofun⟩
    | .ok (place, some .directory) | .ok (place, some .loop) | .ok (place, none) =>
        simp only [located] at there
        cases there
    | .error problem =>
        rw [located] at there
        cases problem <;> cases there

theorem leadsToFile_of_isFile (there : files.isFile path = .ok true) :
    files.LeadsToFile path (files.named path).segments := by
  obtain ⟨place, entry, located, isFile⟩ := locate_of_isFile there
  obtain ⟨-, landed, held⟩ := follow_eq_ok_iff.mp located
  obtain rfl : place = (files.named path).segments := landed
  refine ⟨⟨entry, located, isFile⟩, fun content stored => ?_⟩
  obtain rfl : entry = .file content := by simpa [stored] using held
  have status : files.status path = .ok (.file content) := by
    simp only [Files.status, located]
    rfl
  simp only [read, status]

theorem LeadsToFile.isBelow_iff (leads : files.LeadsToFile (base.join path) place)
    (relative : path.isAbsolute = false) (named : path.segments ≠ []) :
    IsBelow (files.named base).segments place ↔
      Returns (files.named base).segments path.segments := by
  obtain ⟨entry, located, noDirectory, -⟩ := leads.located
  obtain ⟨ways, landed, held⟩ := follow_eq_ok_iff.mp located
  obtain rfl : place = landing (files.named base).segments path.segments :=
    (show place = (files.named (base.join path)).segments from landed).trans
      (named_join relative)
  -- The folder itself is a directory, as the way goes on from there.
  have folder : files.entryAt (files.named base).segments = some .directory := by
    obtain ⟨first, rest, split⟩ := List.exists_cons_of_ne_nil named
    rw [Path.join, relative, split] at ways
    exact (ways base.segments first ⟨rest, by simp⟩).1
  rw [IsBelow, ← prefix_landing_iff, and_iff_left]
  intro same
  rw [same, folder] at held
  exact noDirectory (Option.some.inj held)

end Files

namespace Path

theorem isAbsolute_parse (text : String) :
    (parse text).isAbsolute = true ↔ '/' ∈ text.toList.head? := by
  have root : (parse text).root = "" ↔ (text.toList.takeWhile (· == '/')).length = 0 := by
    simp only [parse]
    split
    · rename_i noSlash
      simp [noSlash]
    · rename_i slashes
      split <;> simp [slashes]
  rw [isAbsolute, bne_iff_ne, ne_eq, root]
  cases text.toList with
  | nil => simp
  | cons c rest => by_cases slash : c = '/' <;> simp [slash]

theorem isAbsolute_document (name : String) :
    (parse (name ++ ".yml")).isAbsolute = (parse name).isAbsolute := by
  rw [Bool.eq_iff_iff, isAbsolute_parse, isAbsolute_parse, String.toList_append]
  cases name.toList <;> simp

theorem segments_document_ne_nil (name : String) : (parse (name ++ ".yml")).segments ≠ [] := by
  rw [← CacheKey.segments_trimmed, CacheKey.segments_document]
  simp

end Path

namespace Source

open Files

variable {catalog : Catalog} {files : Files} {language name : String} {framework : Option String}
  {source : Source} {sources : List Source}

theorem find_isFile (found : find catalog files name = .ok source) :
    ∀ path ∈ source.localPath, files.isFile path = .ok true := by
  obtain ⟨isBuiltin, there, made⟩ := except_bind_eq_ok.mp found
  cases made
  intro path held
  cases isBuiltin with
  | true =>
      obtain rfl : catalog.builtinFolder / (name ++ ".yml") = path := by simpa using held
      exact there
  | false => simp at held

theorem eq_language_of_isAbsolute (member : name ∈ chainNames language framework)
    (absolute : (Path.parse name).isAbsolute = true) : name = language := by
  rw [Path.isAbsolute_parse] at absolute
  unfold chainNames at member
  rw [List.mem_append, List.mem_append] at member
  rcases member with (inGeneral | own) | inFramework
  · split at inGeneral
    · cases inGeneral
    · obtain rfl := List.mem_singleton.mp inGeneral
      exact absurd absolute (by decide)
  · exact List.mem_singleton.mp own
  · split at inFramework
    · cases inFramework
    · cases inFramework
    · obtain rfl := List.mem_singleton.mp inFramework
      simp [frameworksFolder] at absolute

/-- A built-in source has a file at the path that joins its name to the built-in folder, and this is
the file that is read. All names are relative, but that of a language need not be. With a relative
name the file is inside the folder exactly if the way that the name spells returns there, and so
wherever double dots never outnumber the names before them. -/
theorem builtin_below_iff_returns (found : chain catalog files language framework = .ok sources) :
    ∀ source ∈ sources, ∀ path ∈ source.localPath,
      let folder := (files.named catalog.builtinFolder).segments
      let place := (files.named path).segments
      let way := (Path.parse (source.name ++ ".yml")).segments
      path = catalog.builtinFolder / (source.name ++ ".yml") ∧
      files.LeadsToFile path place ∧
      ((Path.parse source.name).isAbsolute = true → source.name = language) ∧
      ((Path.parse source.name).isAbsolute = false →
        (IsBelow folder place ↔ Returns folder way) ∧
        ((∀ taken, taken <+: way → 2 * taken.count ".." ≤ taken.length) →
          IsBelow folder place ∧ place = folder ++ landing [] way)) := by
  intro source member path held folder place way
  obtain ⟨name, inChain, own⟩ := exists_name_of_mem found member
  obtain rfl := find_name own
  obtain rfl := find_localPath own path held
  have leads := leadsToFile_of_isFile (find_isFile own _ held)
  refine ⟨rfl, leads, eq_language_of_isAbsolute inChain, fun relative => ?_⟩
  rw [← Path.isAbsolute_document] at relative
  have inside := leads.isBelow_iff relative (Path.segments_document_ne_nil source.name)
  refine ⟨inside, fun level => ⟨inside.mpr (returns_of_level level), ?_⟩⟩
  exact (named_join relative).trans (landing_of_level level)

end Source

-- A built-in folder with a file beside it.

namespace Source.Sample

open Files

def files : Files where
  entries := [
    (["w"], .directory), (["w", "rules"], .directory), (["w", "rules", "frameworks"], .directory),
    (["w", "rules", "general.yml"], .file "rules:\n- id: inside".toUTF8.toList),
    (["w", "up"], .directory),
    (["w", "up", "ts.yml"], .file "rules:\n- id: outside".toUTF8.toList)]

def catalog : Catalog := ⟨⟨"/", ["w", "rules"]⟩, "http://rules"⟩

def general : Source :=
  ⟨"general", "general.yml", "http://rules/general.yml", some ⟨"/", ["w", "rules", "general.yml"]⟩⟩

def climbing : Source where
  name := "../up/ts"
  remotePath := "../up/ts.yml"
  url := "http://rules/../up/ts.yml"
  localPath := some ⟨"/", ["w", "rules", "..", "up", "ts.yml"]⟩

def returning : Source where
  name := "frameworks/../../rules/general"
  remotePath := "frameworks/../../rules/general.yml"
  url := "http://rules/frameworks/../../rules/general.yml"
  localPath := some ⟨"/", ["w", "rules", "frameworks", "..", "..", "rules", "general.yml"]⟩

/-- A name that goes up from the built-in folder is read from a file beside it. -/
theorem climbing_name_leaves_folder :
    let path : Path := ⟨"/", ["w", "rules", "..", "up", "ts.yml"]⟩
    chain catalog files "../up/ts" none = .ok [general, climbing] ∧
    climbing.localPath = some path ∧
    (files.named path).segments = ["w", "up", "ts.yml"] ∧
    files.readText path = .ok "rules:\n- id: outside" ∧
    ¬ IsBelow (files.named catalog.builtinFolder).segments (files.named path).segments := by
  refine ⟨?_, rfl, rfl, ?_, ?_⟩
  · decide +kernel
  · decide +kernel
  · decide

/-- Of two names that go up from the built-in folder, the one that names it again stays inside. -/
theorem returning_name_stays_below :
    let place (source : Source) :=
      (files.named (source.localPath.getD catalog.builtinFolder)).segments
    let folder := (files.named catalog.builtinFolder).segments
    chain catalog files "../up/ts" (some "../../rules/general") =
        .ok [general, climbing, returning] ∧
      IsBelow folder (place general) ∧ place general = folder ++ ["general.yml"] ∧
      ¬ IsBelow folder (place climbing) ∧ IsBelow folder (place returning) := by
  intro place folder
  have found : chain catalog files "../up/ts" (some "../../rules/general") =
      .ok [general, climbing, returning] := by decide +kernel
  have told := builtin_below_iff_returns found
  obtain ⟨-, -, -, plain⟩ := told general (by simp) _ rfl
  obtain ⟨-, -, -, up⟩ := told climbing (by simp) _ rfl
  obtain ⟨-, -, -, back⟩ := told returning (by simp) _ rfl
  have spelled := (plain (by decide +kernel)).2 (climb_eq_zero_iff.mp (by decide +kernel))
  refine ⟨found, spelled.1, spelled.2, ?_, ?_⟩
  · exact (up (by decide +kernel)).1.not.mpr (by decide +kernel)
  · exact (back (by decide +kernel)).1.mpr (by decide +kernel)

end Source.Sample

end Rulebook
