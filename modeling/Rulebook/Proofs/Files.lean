import Rulebook.Files
import Rulebook.Proofs.Cache.Store
import Rulebook.Proofs.Running

/-!
What is to be seen in a tree of files. A way is followed as far as there are directories on it
(`follow_eq_ok_iff`), so that putting something at a place that is no directory leaves all ways as
they were. Trees that differ in nothing but the rows of databases look alike (`Alike`).
-/

namespace Rulebook

/-- What is to be seen of an entry: not the rows of a database. -/
def FileEntry.outline : FileEntry → FileEntry
  | .database _ => .database none
  | entry => entry

namespace Files

/-- What is to be seen of a path: whether it is a file, whether there is anything, and its text. -/
def glance (files : Files) (path : Path) :
    Except FileError Bool × Except FileError Bool × Except TextError String :=
  (files.isFile path, files.pathExists path, files.readText path)

/-- The segments can be followed: there is a directory before each of them. -/
def Leads (files : Files) (start segments : List String) : Prop :=
  ∀ taken last, taken ++ [last] <+: segments →
    files.entryAt (landing start taken) = some .directory ∧ isTooLong last = false

/-- On the way of the segments there is an endless link, and only directories before it. -/
def LoopsOn (files : Files) (start segments : List String) : Prop :=
  ∃ taken, taken <+: segments ∧ files.Leads start taken ∧
    files.entryAt (landing start taken) = some .loop

/-- Why a path has no absolute form. -/
inductive Refuses (files : Files) (path : Path) : ResolveError → Prop where
  | lostStart (gone : files.entryAt (files.start path) ≠ some .directory) :
      Refuses files path .lostStart
  | endlessLinks (there : files.entryAt (files.start path) = some .directory)
      (loops : files.LoopsOn [] (files.named path).segments) :
      Refuses files path (.endlessLinks (files.named path))

variable {files again : Files} {place start target : List String} {entry : FileEntry}
  {held : Option FileEntry} {segments : List String} {segment : String} {path : Path}

theorem ne_root (vacant : files.entryAt place ≠ some .directory) : place ≠ [] :=
  fun root => vacant (by simp [root, entryAt])

theorem entryAt_put (occupied : place ≠ []) (other : List String) :
    (files.put place entry).entryAt other =
      if other = place then some entry else files.entryAt other := by
  by_cases root : other = []
  · simp [entryAt, root, occupied.symm]
  · simp only [entryAt, root, if_false, put]
    exact lookup_replaced files.entries place other entry

theorem put_put (files : Files) (place : List String) (first second : FileEntry) :
    (files.put place first).put place second = files.put place second := by
  simp [put, List.filter_filter]

theorem locate_eq_follow (files : Files) (path : Path) :
    files.locate path = files.follow (files.start path) path.segments := rfl

theorem named_segments (files : Files) (path : Path) :
    (files.named path).segments = landing (files.start path) path.segments := rfl

theorem leads_nil (files : Files) (start : List String) : files.Leads start [] :=
  fun taken last before => by simp at before

theorem leads_cons : files.Leads start (segment :: segments) ↔
    files.entryAt start = some .directory ∧ isTooLong segment = false ∧
      files.Leads (step start segment) segments := by
  constructor
  · intro leads
    obtain ⟨here, short⟩ := leads [] segment (by simp)
    refine ⟨here, short, fun taken last before => ?_⟩
    exact leads (segment :: taken) last (List.cons_prefix_cons.mpr ⟨rfl, before⟩)
  · rintro ⟨here, short, leads⟩ taken last before
    cases taken with
    | nil =>
        obtain ⟨rfl, -⟩ := List.cons_prefix_cons.mp before
        exact ⟨here, short⟩
    | cons first rest =>
        obtain ⟨rfl, later⟩ := List.cons_prefix_cons.mp before
        exact leads rest last later

theorem follow_cons (here : files.entryAt start = some .directory)
    (short : isTooLong segment = false) :
    files.follow start (segment :: segments) = files.follow (step start segment) segments := by
  simp only [follow, here, short, step]
  split <;> rfl

theorem follow_eq_ok_iff : files.follow start segments = .ok (target, held) ↔
    files.Leads start segments ∧ target = landing start segments ∧ held = files.entryAt target := by
  induction segments generalizing start with
  | nil =>
      simp only [follow, Except.ok.injEq, Prod.mk.injEq, landing, List.foldl_nil]
      constructor
      · rintro ⟨rfl, rfl⟩
        exact ⟨leads_nil files _, rfl, rfl⟩
      · rintro ⟨-, rfl, rfl⟩
        exact ⟨rfl, rfl⟩
  | cons segment rest ih =>
      rw [leads_cons]
      by_cases here : files.entryAt start = some .directory
      · by_cases short : isTooLong segment = false
        · rw [follow_cons here short, ih]
          simp [here, short, landing]
        · have named : segment ≠ ".." := by
            rintro rfl
            exact short (by decide)
          simp [follow, here, short, named]
      · refine iff_of_false (fun found => ?_) fun leads => here leads.1.1
        unfold follow at found
        split at found
        · cases found
        · rename_i directory
          exact here directory
        · cases found
        · cases found

theorem Leads.short (leads : files.Leads start segments) :
    ∀ segment ∈ segments, isTooLong segment = false := by
  intro segment within
  obtain ⟨taken, rest, rfl⟩ := List.append_of_mem within
  exact (leads taken segment ⟨rest, by simp⟩).2

theorem Leads.locate (leads : files.Leads (files.start path) path.segments) :
    files.locate path = .ok (landing (files.start path) path.segments,
      files.entryAt (landing (files.start path) path.segments)) :=
  follow_eq_ok_iff.mpr ⟨leads, rfl, rfl⟩

theorem follow_entry (found : files.follow start segments = .ok (target, held)) :
    held = files.entryAt target :=
  (follow_eq_ok_iff.mp found).2.2

theorem follow_init {last : String}
    (found : files.follow start (segments ++ [last]) = .ok (place, held)) :
    ∃ folder, files.follow start segments = .ok (folder, some .directory) := by
  obtain ⟨leads, -⟩ := follow_eq_ok_iff.mp found
  have before : files.Leads start segments := fun taken next within =>
    leads taken next (within.trans (List.prefix_append segments [last]))
  have ends := (leads segments last List.prefix_rfl).1
  exact ⟨_, follow_eq_ok_iff.mpr ⟨before, rfl, ends.symm⟩⟩

/-- A way that is followed leads to the same place after something was put where no directory is. -/
theorem follow_put (vacant : files.entryAt place ≠ some .directory)
    (found : files.follow start segments = .ok (target, held)) :
    (files.put place entry).follow start segments =
      .ok (target, if target = place then some entry else held) := by
  have occupied := ne_root vacant
  obtain ⟨leads, rfl, rfl⟩ := follow_eq_ok_iff.mp found
  refine follow_eq_ok_iff.mpr ⟨fun taken last before => ?_, rfl, (entryAt_put occupied _).symm⟩
  obtain ⟨there, short⟩ := leads taken last before
  have apart : landing start taken ≠ place := fun same => vacant (same ▸ there)
  exact ⟨by rw [entryAt_put occupied, if_neg apart, there], short⟩

theorem loopsOn_nil : files.LoopsOn start [] ↔ files.entryAt start = some .loop := by
  constructor
  · rintro ⟨taken, before, -, loop⟩
    obtain rfl := List.prefix_nil.mp before
    exact loop
  · exact fun loop => ⟨[], List.prefix_rfl, leads_nil files start, loop⟩

theorem loopsOn_cons : files.LoopsOn start (segment :: segments) ↔
    files.entryAt start = some .loop ∨ files.entryAt start = some .directory ∧
      isTooLong segment = false ∧ files.LoopsOn (step start segment) segments := by
  constructor
  · rintro ⟨taken, before, leads, loop⟩
    cases taken with
    | nil => exact .inl loop
    | cons first rest =>
        obtain ⟨rfl, later⟩ := List.cons_prefix_cons.mp before
        obtain ⟨here, short, leads⟩ := leads_cons.mp leads
        exact .inr ⟨here, short, rest, later, leads, loop⟩
  · rintro (loop | ⟨here, short, taken, before, leads, loop⟩)
    · exact ⟨[], List.nil_prefix, leads_nil files start, loop⟩
    · exact ⟨segment :: taken, List.cons_prefix_cons.mpr ⟨rfl, before⟩,
        leads_cons.mpr ⟨here, short, leads⟩, loop⟩

theorem loopsOn_iff : files.LoopsOn start segments ↔
    files.follow start segments = .error .endlessLinks ∨
      ∃ place, files.follow start segments = .ok (place, some .loop) := by
  induction segments generalizing start with
  | nil => simp [loopsOn_nil, follow]
  | cons segment rest ih =>
      rw [loopsOn_cons]
      cases here : files.entryAt start with
      | none => simp [follow, here]
      | some entry =>
          cases entry with
          | file content | database table | loop => simp [follow, here]
          | directory =>
              by_cases short : isTooLong segment = false
              · simp [follow_cons here short, ih, short]
              · have named : segment ≠ ".." := by
                  rintro rfl
                  exact short (by decide)
                simp [follow, here, short, named]

theorem status_eq_endlessLinks_iff : files.status path = .error .endlessLinks ↔
    files.LoopsOn (files.start path) path.segments := by
  rw [loopsOn_iff, status, locate]
  cases files.follow (files.start path) path.segments with
  | error problem => simp [bind, Except.bind]
  | ok found =>
      match found with
      | (place, some (.file _)) | (place, some (.database _)) | (place, some .directory)
      | (place, some .loop) | (place, none) =>
          simp [bind, Except.bind, pure, Except.pure, throw, throwThe, MonadExceptOf.throw]

/-- A path has an absolute form unless the directory where it starts is gone, or there is an endless
link on the way that the absolute form takes. -/
theorem absolute_eq_error_iff {error : ResolveError} :
    files.absolute path = .error error ↔ files.Refuses path error := by
  have loops : files.status (files.named path) = .error .endlessLinks ↔
      files.LoopsOn [] (files.named path).segments := status_eq_endlessLinks_iff
  constructor
  · intro failed
    unfold absolute at failed
    split at failed
    · rename_i there
      dsimp only at failed
      split at failed
      · rename_i endless
        cases failed
        exact .endlessLinks there (loops.mp endless)
      · cases failed
    · rename_i gone
      cases failed
      exact .lostStart gone
  · rintro (gone | ⟨there, endless⟩)
    · unfold absolute
      split
      · rename_i there
        exact absurd there gone
      · rfl
    · simp only [absolute, there, loops.mpr endless]

example : (⟨[], ["removed"]⟩ : Files).absolute (.parse "project") = .error .lostStart := by decide

example : (⟨[(["link"], .loop)], []⟩ : Files).absolute (.parse "/link/project") =
    .error (.endlessLinks (.parse "/link/project")) := by decide

theorem locate_of_isDirectory (there : files.isDirectory path = .ok true) :
    ∃ place, files.locate path = .ok (place, some .directory) := by
  unfold isDirectory status? status at there
  split at there
  · cases there
  · match located : files.locate path with
    | .ok (place, some .directory) => exact ⟨place, rfl⟩
    | .ok (place, some (.file _)) | .ok (place, some (.database _)) | .ok (place, some .loop)
    | .ok (place, none) =>
        simp only [located] at there
        cases there
    | .error problem =>
        rw [located] at there
        cases problem <;> cases there

theorem isDirectory_put (vacant : files.entryAt place ≠ some .directory)
    (there : files.isDirectory path = .ok true) :
    (files.put place entry).isDirectory path = .ok true := by
  obtain ⟨folder, located⟩ := locate_of_isDirectory there
  have apart : folder ≠ place := by
    rintro rfl
    exact vacant (follow_entry located).symm
  have again : (files.put place entry).locate path = .ok (folder, some .directory) :=
    (follow_put vacant located).trans (by rw [if_neg apart])
  have status : files.status path = .ok .directory := by
    simp only [Files.status, located]
    rfl
  have statusAgain : (files.put place entry).status path = .ok .directory := by
    simp only [Files.status, again]
    rfl
  simpa only [isDirectory, status?, status, statusAgain] using there

/-- The trees differ in nothing but the rows of databases. -/
structure Alike (files again : Files) : Prop where
  current : again.current = files.current
  outline : ∀ place, (again.entryAt place).map FileEntry.outline =
    (files.entryAt place).map FileEntry.outline

theorem Alike.trans {third : Files} (first : files.Alike again) (second : again.Alike third) :
    files.Alike third :=
  ⟨second.current.trans first.current,
    fun place => (second.outline place).trans (first.outline place)⟩

theorem alike_put {table : Option CacheTable} (held : files.entryAt place = some (.database table))
    (more : Option CacheTable) : files.Alike (files.put place (.database more)) := by
  refine ⟨rfl, fun other => ?_⟩
  have occupied : place ≠ [] := fun root => by simp [root, entryAt] at held
  rw [entryAt_put occupied]
  by_cases same : other = place
  · simp [same, held, FileEntry.outline]
  · rw [if_neg same]

theorem Alike.directory_iff (alike : files.Alike again) (place : List String) :
    again.entryAt place = some .directory ↔ files.entryAt place = some .directory := by
  have outlined : ∀ entry : Option FileEntry,
      entry = some .directory ↔ entry.map FileEntry.outline = some .directory := by
    rintro (_ | _ | _ | _ | _) <;> simp [FileEntry.outline]
  rw [outlined, alike.outline, ← outlined]

theorem Alike.follow (alike : files.Alike again) (start segments : List String) :
    (again.follow start segments).map (Prod.map id (Option.map FileEntry.outline)) =
      (files.follow start segments).map (Prod.map id (Option.map FileEntry.outline)) := by
  induction segments generalizing start with
  | nil => simp [Files.follow, Except.map, alike.outline]
  | cons segment rest ih =>
      have seen := alike.outline start
      unfold Files.follow
      by_cases directory : files.entryAt start = some .directory
      · have same := (alike.directory_iff start).mpr directory
        simp only [directory, same]
        split
        · exact ih _
        · split
          · rfl
          · exact ih _
      · have other := (alike.directory_iff start).not.mpr directory
        cases here : files.entryAt start with
        | none =>
            have absent : again.entryAt start = none := by simpa [here] using seen
            simp only [absent]
        | some entry =>
            obtain ⟨found, there, -⟩ := Option.map_eq_some_iff.mp
              (seen.trans (congrArg (Option.map FileEntry.outline) here))
            cases entry <;> cases found <;> simp_all [FileEntry.outline]

theorem Alike.status (alike : files.Alike again) (path : Path) :
    (again.status path).map FileEntry.outline = (files.status path).map FileEntry.outline := by
  have starts : again.start path = files.start path := by simp only [start, alike.current]
  have located := alike.follow (files.start path) path.segments
  simp only [Files.status, Files.locate, starts]
  generalize again.follow _ _ = second at located ⊢
  generalize files.follow _ _ = first at located ⊢
  match first, second with
  | .error problem, .error other =>
      cases located
      rfl
  | .ok (place, none), .ok (other, none) => rfl
  | .ok (place, some held), .ok (other, some found) =>
      simp only [Except.map, Prod.map, Option.map_some, Except.ok.injEq, Prod.mk.injEq,
        Option.some.injEq] at located
      have same := located.2
      cases held <;> cases found <;> cases same <;> rfl
  | .ok (place, none), .ok (other, some found) => simp [Except.map] at located
  | .ok (place, some held), .ok (other, none) => simp [Except.map] at located
  | .ok (place, held), .error problem => cases located
  | .error problem, .ok (place, held) => cases located

theorem Alike.status? (alike : files.Alike again) (path : Path) :
    (again.status? path).map (Option.map FileEntry.outline) =
      (files.status? path).map (Option.map FileEntry.outline) := by
  have status := alike.status path
  unfold Files.status?
  split
  · rfl
  · match one : files.status path, two : again.status path with
    | .ok held, .ok found =>
        rw [one, two] at status
        simpa [Except.map] using status
    | .error problem, .error other =>
        rw [one, two] at status
        cases status
        cases problem <;> rfl
    | .ok held, .error problem => simp [one, two, Except.map] at status
    | .error problem, .ok found => simp [one, two, Except.map] at status

theorem isFile_eq (files : Files) (path : Path) :
    files.isFile path = ((files.status? path).map (Option.map FileEntry.outline)).map fun
      | some (.file _) | some (.database _) => true
      | _ => false := by
  unfold isFile
  match files.status? path with
  | .error error => rfl
  | .ok none | .ok (some (.file _)) | .ok (some (.database _)) | .ok (some .directory)
  | .ok (some .loop) => rfl

theorem isDirectory_eq (files : Files) (path : Path) :
    files.isDirectory path =
      ((files.status? path).map (Option.map FileEntry.outline)).map fun
        | some .directory => true
        | _ => false := by
  unfold isDirectory
  match files.status? path with
  | .error error => rfl
  | .ok none | .ok (some (.file _)) | .ok (some (.database _)) | .ok (some .directory)
  | .ok (some .loop) => rfl

theorem pathExists_eq (files : Files) (path : Path) :
    files.pathExists path =
      ((files.status? path).map (Option.map FileEntry.outline)).map Option.isSome := by
  unfold pathExists
  match files.status? path with
  | .error error | .ok none | .ok (some _) => rfl

theorem read_eq (files : Files) (path : Path) :
    files.read path = match (files.status path).map FileEntry.outline with
      | .ok (.file content) => .ok content
      | .ok (.database _) => .ok "SQLite format 3\x00".toUTF8.toList
      | .ok .directory => .error ⟨.isDirectory, path⟩
      | .ok .loop => .error ⟨.endlessLinks, path⟩
      | .error problem => .error ⟨problem, path⟩ := by
  unfold read
  match files.status path with
  | .error problem => rfl
  | .ok (.file content) | .ok (.database table) | .ok .directory | .ok .loop => rfl

theorem Alike.isDirectory (alike : files.Alike again) (path : Path) :
    again.isDirectory path = files.isDirectory path := by
  simp only [isDirectory_eq, alike.status?]

/-- In trees that look alike the same is to be seen of every path. -/
theorem Alike.glance (alike : files.Alike again) (path : Path) :
    again.glance path = files.glance path := by
  simp only [Files.glance, isFile_eq, pathExists_eq, readText, read_eq, alike.status, alike.status?]

end Files

end Rulebook
