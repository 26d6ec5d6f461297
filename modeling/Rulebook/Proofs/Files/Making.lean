import Rulebook.Proofs.Files

namespace Rulebook

namespace Files

/-- The place is one of those to which the segments lead on their way. -/
def OnWay (start segments place : List String) : Prop :=
  ∃ taken, taken <+: segments ∧ landing start taken = place

/-- Directories can be made on the way: it starts in one, and on it there is nothing else. -/
structure IsClear (files : Files) (start segments : List String) : Prop where
  starts : files.entryAt start = some .directory
  free : ∀ place, OnWay start segments place →
    files.entryAt place = none ∨ files.entryAt place = some .directory
  short : ∀ segment ∈ segments, isTooLong segment = false
  plain : ∀ segment ∈ segments, segment.toList.contains '\x00' = false

/-- There are more directories, at places where nothing was, and all else is as before. -/
structure Grown (files made : Files) : Prop where
  current : made.current = files.current
  entries : ∀ place, made.entryAt place = files.entryAt place ∨
    files.entryAt place = none ∧ made.entryAt place = some .directory

/-- There are directories on the way, and all else is as before. -/
structure Laid (start segments : List String) (files made : Files) : Prop where
  current : made.current = files.current
  onWay : ∀ place, OnWay start segments place → made.entryAt place = some .directory
  aside : ∀ place, ¬ OnWay start segments place → made.entryAt place = files.entryAt place

variable {files made : Files} {path : Path} {place start target segments : List String}
  {segment : String} {entry : FileEntry} {levels : Nat}

theorem onWay_self (start segments : List String) :
    OnWay start segments (landing start segments) :=
  ⟨segments, List.prefix_rfl, rfl⟩

theorem onWay_start (start segments : List String) : OnWay start segments start :=
  ⟨[], List.nil_prefix, rfl⟩

theorem OnWay.cons (onWay : OnWay (step start segment) segments place) :
    OnWay start (segment :: segments) place := by
  obtain ⟨taken, before, rfl⟩ := onWay
  exact ⟨segment :: taken, List.cons_prefix_cons.mpr ⟨rfl, before⟩, rfl⟩

theorem OnWay.of_dropLast (onWay : OnWay start segments.dropLast place) :
    OnWay start segments place := by
  obtain ⟨taken, before, rfl⟩ := onWay
  exact ⟨taken, before.trans (List.dropLast_prefix segments), rfl⟩

/-- On the way there is the end of it and what is on the way before. -/
theorem OnWay.eq_or (onWay : OnWay start segments place) :
    place = landing start segments ∨ OnWay start segments.dropLast place := by
  obtain ⟨taken, before, rfl⟩ := onWay
  rcases List.eq_nil_or_concat segments with rfl | ⟨rest, last, rfl⟩
  · exact .inl (by rw [List.prefix_nil.mp before])
  · rw [List.concat_eq_append] at before ⊢
    rw [List.dropLast_concat]
    rcases List.prefix_concat_iff.mp before with rfl | earlier
    · exact .inl rfl
    · exact .inr ⟨taken, earlier, rfl⟩

theorem Leads.onWay (leads : files.Leads start segments)
    (ends : files.entryAt (landing start segments) = some .directory)
    (onWay : OnWay start segments place) : files.entryAt place = some .directory := by
  obtain ⟨taken, ⟨rest, rfl⟩, rfl⟩ := onWay
  cases rest with
  | nil => rwa [List.append_nil] at ends
  | cons last rest => exact (leads taken last ⟨rest, by simp⟩).1

theorem Leads.before (leads : files.Leads start segments) (nonempty : segments ≠ [])
    (onWay : OnWay start segments.dropLast place) : files.entryAt place = some .directory := by
  obtain ⟨taken, ⟨rest, split⟩, rfl⟩ := onWay
  have whole : taken ++ (rest ++ [segments.getLast nonempty]) = segments := by
    rw [← List.append_assoc, split, List.dropLast_append_getLast]
  cases rest with
  | nil => exact (leads taken _ ⟨[], by simpa using whole⟩).1
  | cons last rest =>
      exact (leads taken last ⟨rest ++ [segments.getLast nonempty], by simpa using whole⟩).1

/-- Where there are directories on the way before, all of the way can be followed. -/
theorem leads_of_dropLast (short : ∀ segment ∈ segments, isTooLong segment = false)
    (onWay : ∀ place, OnWay start segments.dropLast place → files.entryAt place = some .directory) :
    files.Leads start segments := by
  rintro taken last ⟨rest, rfl⟩
  refine ⟨onWay _ ⟨taken, ?_, rfl⟩, short last (by simp)⟩
  rw [List.append_assoc, List.dropLast_append_of_ne_nil (by simp)]
  exact List.prefix_append _ _

/-- On a way where nothing but directories is in the way, it ends only where one is missing. -/
theorem follow_missing
    (free : ∀ place, OnWay start segments place →
      files.entryAt place = none ∨ files.entryAt place = some .directory)
    (short : ∀ segment ∈ segments, isTooLong segment = false)
    (stops : ¬ files.Leads start segments) : files.follow start segments = .error .missing := by
  induction segments generalizing start with
  | nil => exact absurd (leads_nil files start) stops
  | cons segment rest ih =>
      rcases free start (onWay_start ..) with absent | here
      · simp only [follow, absent]
      · have named := short segment List.mem_cons_self
        rw [follow_cons here named]
        refine ih (fun place onWay => free place onWay.cons)
          (fun segment within => short segment (List.mem_cons_of_mem _ within)) fun leads => ?_
        exact stops (leads_cons.mpr ⟨here, named, leads⟩)

theorem makeDirectory_eq (files : Files) (path : Path) :
    files.makeDirectory path = match files.locate path with
      | .error problem => .error problem
      | .ok (_, some _) => .error .exists
      | .ok (place, none) =>
          if path.segments = [] then .error .missing else .ok (files.put place .directory) := by
  rw [makeDirectory]
  match files.locate path with
  | .error problem => rfl
  | .ok (place, some entry) => rfl
  | .ok (place, none) => rfl

theorem makeDirectory_parent (found : files.locate path = .ok (place, some entry)) :
    files.makeDirectory path.parent = .error .exists := by
  have there : ∃ folder held, files.locate path.parent = .ok (folder, some held) := by
    rcases List.eq_nil_or_concat path.segments with none | ⟨segments, last, split⟩
    · exact ⟨place, entry, by simpa [locate, start, Path.parent, Path.isAbsolute, none] using found⟩
    · simp only [locate, split, List.concat_eq_append] at found
      obtain ⟨folder, followed⟩ := follow_init found
      exact ⟨folder, .directory, by
        simpa [locate, start, Path.parent, Path.isAbsolute, split] using followed⟩
  obtain ⟨folder, held, located⟩ := there
  rw [makeDirectory_eq, located]

theorem ensureDirectory_of_isDirectory (there : files.isDirectory path = .ok true) :
    files.ensureDirectory path = (.ok (), files) := by
  obtain ⟨place, located⟩ := locate_of_isDirectory there
  have known : files.makeDirectory path = .error .exists := by rw [makeDirectory_eq, located]
  simp only [ensureDirectory, makeDirectories, known, makeDirectories.keepDirectory, there]

theorem Grown.refl (files : Files) : files.Grown files := ⟨rfl, fun _ => .inl rfl⟩

theorem Grown.trans {more : Files} (first : files.Grown made) (second : made.Grown more) :
    files.Grown more where
  current := second.current.trans first.current
  entries place := by
    rcases second.entries place with same | ⟨absent, there⟩
    · rw [same]
      exact first.entries place
    · rcases first.entries place with same | ⟨-, before⟩
      · exact .inr ⟨same ▸ absent, there⟩
      · rw [absent] at before
        cases before

theorem grown_put (absent : files.entryAt place = none) :
    files.Grown (files.put place .directory) where
  current := rfl
  entries other := by
    have vacant : files.entryAt place ≠ some .directory := by simp [absent]
    rw [entryAt_put (ne_root vacant)]
    by_cases same : other = place
    · exact .inr ⟨same ▸ absent, if_pos same⟩
    · exact .inl (if_neg same)

theorem grown_makeDirectory (ran : files.makeDirectory path = .ok made) : files.Grown made := by
  rw [makeDirectory_eq] at ran
  split at ran
  · cases ran
  · cases ran
  · rename_i place located
    split at ran
    · cases ran
    · cases ran
      exact grown_put (follow_entry located).symm

theorem grown_makeDirectories (levels : Nat) (files : Files) (path : Path) :
    files.Grown (makeDirectories levels files path).2 := by
  induction levels generalizing files path with
  | zero => exact .refl files
  | succ levels ih =>
      unfold makeDirectories
      split
      · rename_i made ran
        exact grown_makeDirectory ran
      · split
        · exact .refl files
        · have parents := ih files path.parent
          split
          · rename_i error made ran
            exact ran ▸ parents
          · rename_i between ran
            have before : files.Grown between := by simpa only [ran] using parents
            split
            · rename_i made ran
              exact before.trans (grown_makeDirectory ran)
            · exact before
      · exact .refl files

theorem makeDirectories_starts (ran : (makeDirectories levels files path).1 = .ok ()) :
    files.entryAt (files.start path) ≠ none := by
  intro absent
  induction levels generalizing path with
  | zero => cases ran
  | succ levels ih =>
      have missing : files.makeDirectory path = .error .missing := by
        rw [makeDirectory_eq, locate_eq_follow]
        cases segments : path.segments with
        | nil => simp [follow, absent]
        | cons segment rest => simp [follow, absent]
      simp only [makeDirectories, missing] at ran
      split at ran
      · cases ran
      · split at ran
        · cases ran
        · rename_i between parents
          exact ih (congrArg Prod.fst parents) absent

theorem isDirectory_of_leads (leads : files.Leads (files.start path) path.segments)
    (plain : ∀ segment ∈ path.segments, segment.toList.contains '\x00' = false)
    (ends : files.entryAt (landing (files.start path) path.segments) = some .directory) :
    files.isDirectory path = .ok true := by
  have unmarked : path.segments.any (fun segment => segment.toList.contains '\x00') = false := by
    simpa using plain
  simp only [isDirectory, status?, status, leads.locate, ends, unmarked]
  rfl

theorem laid_of_leads (leads : files.Leads start segments)
    (ends : files.entryAt (landing start segments) = some .directory) :
    Laid start segments files files :=
  ⟨rfl, fun _ onWay => leads.onWay ends onWay, fun _ _ => rfl⟩

/-- With all before it, the last directory of a way is made or is there. -/
theorem makeDirectory_last (clear : files.IsClear (files.start path) path.segments)
    (leads : files.Leads (files.start path) path.segments) :
    (∃ made, files.makeDirectory path = .ok made ∧
      Laid (files.start path) path.segments files made) ∨
    files.makeDirectory path = .error .exists ∧ files.isDirectory path = .ok true ∧
      Laid (files.start path) path.segments files files := by
  rcases clear.free _ (onWay_self ..) with absent | ends
  · have segments : path.segments ≠ [] := by
      intro none
      simp [none, landing, clear.starts] at absent
    have vacant : files.entryAt (landing (files.start path) path.segments) ≠ some .directory := by
      simp [absent]
    have occupied := ne_root vacant
    refine .inl ⟨files.put (landing (files.start path) path.segments) .directory, ?_, rfl, ?_, ?_⟩
    · rw [makeDirectory_eq, leads.locate, absent]
      exact if_neg segments
    · intro place onWay
      rw [entryAt_put occupied]
      rcases onWay.eq_or with rfl | before
      · rw [if_pos rfl]
      · rw [leads.before segments before, ite_self]
    · intro place aside
      rw [entryAt_put occupied, if_neg]
      rintro rfl
      exact aside (onWay_self ..)
  · refine .inr ⟨?_, isDirectory_of_leads leads clear.plain ends, laid_of_leads leads ends⟩
    rw [makeDirectory_eq, leads.locate, ends]

theorem IsClear.dropLast (clear : files.IsClear start segments) :
    files.IsClear start segments.dropLast where
  starts := clear.starts
  free place onWay := clear.free place onWay.of_dropLast
  short segment within := clear.short segment (List.dropLast_subset segments within)
  plain segment within := clear.plain segment (List.dropLast_subset segments within)

/-- A clear way stays clear where there are directories on a part of it. -/
theorem Laid.isClear (laid : Laid start segments.dropLast files made)
    (clear : files.IsClear start segments) : made.IsClear start segments where
  starts := laid.onWay start (onWay_start ..)
  free place onWay := by
    by_cases before : OnWay start segments.dropLast place
    · exact .inr (laid.onWay place before)
    · rw [laid.aside place before]
      exact clear.free place onWay
  short := clear.short
  plain := clear.plain

theorem Laid.trans {more : Files} (first : Laid start segments.dropLast files made)
    (second : Laid start segments made more) : Laid start segments files more where
  current := second.current.trans first.current
  onWay := second.onWay
  aside place aside := by
    rw [second.aside place aside, first.aside place fun before => aside before.of_dropLast]

/-- On a clear way all directories are made. -/
theorem makeDirectories_laid (clear : files.IsClear (files.start path) path.segments)
    (enough : path.segments.length < levels) :
    ∃ made, makeDirectories levels files path = (.ok (), made) ∧
      Laid (files.start path) path.segments files made := by
  induction levels generalizing path with
  | zero => omega
  | succ levels ih =>
      by_cases leads : files.Leads (files.start path) path.segments
      · rcases makeDirectory_last clear leads with ⟨made, ran, laid⟩ | ⟨ran, there, laid⟩
        · exact ⟨made, by rw [makeDirectories, ran], laid⟩
        · exact ⟨files, by simp only [makeDirectories, ran, makeDirectories.keepDirectory, there],
            laid⟩
      · have missing : files.makeDirectory path = .error .missing := by
          rw [makeDirectory_eq, locate_eq_follow, follow_missing clear.free clear.short leads]
        have nonempty : path.segments ≠ [] := fun none =>
          leads fun taken last before => by simp [none] at before
        have fewer : path.parent.segments.length < levels := by
          have := List.length_pos_iff.mpr nonempty
          simp only [Path.parent, List.length_dropLast]
          omega
        obtain ⟨between, parents, before⟩ := @ih path.parent clear.dropLast fewer
        have same : between.start path = files.start path := by rw [start, before.current, start]
        have reached : between.Leads (between.start path) path.segments :=
          same ▸ leads_of_dropLast clear.short before.onWay
        rcases makeDirectory_last (same ▸ before.isClear clear) reached with
          ⟨made, ran, laid⟩ | ⟨ran, there, laid⟩
        · refine ⟨made, ?_, before.trans (same ▸ laid)⟩
          simp only [makeDirectories, missing, if_neg nonempty, parents, ran]
        · refine ⟨between, ?_, before.trans (same ▸ laid)⟩
          simp only [makeDirectories, missing, if_neg nonempty, parents, ran,
            makeDirectories.keepDirectory, there]

theorem ensureDirectory_laid (path : Path)
    (clear : files.IsClear (files.start path) path.segments) :
    ∃ made, files.ensureDirectory path = (.ok (), made) ∧
      Laid (files.start path) path.segments files made :=
  makeDirectories_laid clear (Nat.lt_succ_self _)

theorem grown_ensureDirectory {result : Except FileError Unit}
    (ran : files.ensureDirectory path = (result, made)) : files.Grown made := by
  have grown := grown_makeDirectories (path.segments.length + 1) files path
  rwa [← ensureDirectory, ran] at grown

theorem Grown.starts (grown : files.Grown made) (path : Path) :
    made.start path = files.start path := by
  rw [Files.start, grown.current, Files.start]

theorem plain_of_isDirectory (there : files.isDirectory path = .ok true) :
    ∀ segment ∈ path.segments, segment.toList.contains '\x00' = false := by
  unfold isDirectory status? at there
  split at there
  · cases there
  · rename_i unmarked
    simpa using unmarked

theorem onWay_of_isDirectory (there : files.isDirectory path = .ok true)
    (onWay : OnWay (files.start path) path.segments place) :
    files.entryAt place = some .directory := by
  obtain ⟨target, located⟩ := locate_of_isDirectory there
  obtain ⟨leads, rfl, ends⟩ := follow_eq_ok_iff.mp located
  exact leads.onWay ends.symm onWay

/-- A way on which the directories were made was clear. -/
theorem isClear_of_ensureDirectory (ran : files.ensureDirectory path = (.ok (), made))
    (there : made.isDirectory path = .ok true) :
    files.IsClear (files.start path) path.segments := by
  have grown := grown_ensureDirectory ran
  have before : ∀ place, OnWay (files.start path) path.segments place →
      files.entryAt place = none ∨ files.entryAt place = some .directory := by
    intro place onWay
    rcases grown.entries place with same | ⟨absent, -⟩
    · exact .inr (same ▸ onWay_of_isDirectory there (grown.starts path ▸ onWay))
    · exact .inl absent
  refine ⟨?_, before, ?_, plain_of_isDirectory there⟩
  · have starts := makeDirectories_starts (congrArg Prod.fst ran)
    exact (before _ (onWay_start ..)).resolve_left starts
  · obtain ⟨target, located⟩ := locate_of_isDirectory there
    exact (follow_eq_ok_iff.mp located).1.short

theorem IsClear.put (clear : files.IsClear start segments)
    (occupied : place ≠ []) (aside : ¬ OnWay start segments place) :
    (files.put place entry).IsClear start segments := by
  have same : ∀ other, OnWay start segments other →
      (files.put place entry).entryAt other = files.entryAt other := by
    intro other onWay
    rw [entryAt_put occupied, if_neg]
    rintro rfl
    exact aside onWay
  refine ⟨(same _ (onWay_start ..)).trans clear.starts, fun other onWay => ?_, clear.short,
    clear.plain⟩
  rw [same other onWay]
  exact clear.free other onWay

theorem entryAt_remove (occupied : place ≠ []) (other : List String) :
    (files.remove place).entryAt other = if place <+: other then none else files.entryAt other := by
  by_cases root : other = []
  · simp [entryAt, root, occupied]
  · simp only [entryAt, root, if_false, remove]
    generalize files.entries = entries
    induction entries with
    | nil => simp
    | cons first rest ih =>
        obtain ⟨there, entry⟩ := first
        rw [List.filter_cons, List.lookup_cons]
        by_cases same : other = there
        · subst same
          by_cases inside : place <+: other
          · have taken : place.isPrefixOf other = true := List.isPrefixOf_iff_prefix.mpr inside
            simpa [taken, inside] using ih
          · have left : place.isPrefixOf other = false := by
              rwa [← Bool.not_eq_true, List.isPrefixOf_iff_prefix]
            simp [left, inside]
        · rw [beq_false_of_ne same, ← ih]
          split
          · rw [List.lookup_cons, beq_false_of_ne same]
          · rfl

theorem IsClear.remove (clear : files.IsClear start segments) (outside : ¬ place <+: start) :
    (files.remove place).IsClear start segments := by
  have occupied : place ≠ [] := by
    rintro rfl
    exact outside List.nil_prefix
  refine ⟨?_, fun other onWay => ?_, clear.short, clear.plain⟩
  · rw [entryAt_remove occupied, if_neg outside]
    exact clear.starts
  · rw [entryAt_remove occupied]
    split
    · exact .inl rfl
    · exact clear.free other onWay

end Files

end Rulebook
