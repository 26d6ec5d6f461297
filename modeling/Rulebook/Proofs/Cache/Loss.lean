import Mathlib.Data.List.Induction
import Rulebook.Proofs.Cache.Refinement
import Rulebook.Proofs.Files.Making

/-!
A database that is deleted while its store is in use. The folder and the file are made again by the
next operation, but not the table: a store that was used before finds none from then on, whatever
is deleted again, until the database is opened by a new store (`Disk.Follows`).
-/

namespace Rulebook

namespace CacheStore

/-- What happens to a database: an operation of its store, or that what is at a place is deleted,
with all that is inside. -/
inductive Event where
  | get (key : CacheKey)
  | upsert (key : CacheKey) (entry : CacheEntry)
  | delete (place : List String)

/-- The use of the store that an event is. -/
def Event.use? : Event → Option Use
  | .get key => some (.get key)
  | .upsert key entry => some (.upsert key entry)
  | .delete _ => none

/-- The event takes away what is at the place. -/
def Event.Takes (target : List String) : Event → Prop
  | .delete place => place <+: target
  | _ => False

/-- The store is used in one of the events. -/
def IsUsed (events : List Event) : Prop := ∃ event ∈ events, event.use?.isSome = true

/-- What is at the place is not taken away after the store was used. -/
def IsSpared (target : List String) (events : List Event) : Prop :=
  events.Pairwise fun earlier later => earlier.use?.isSome = true → ¬ later.Takes target

section

variable {target place : List String} {events : List Event} {event : Event} {use : Use}

theorem isUsed_concat_of_use (events : List Event) (operates : event.use? = some use) :
    IsUsed (events ++ [event]) :=
  ⟨event, List.mem_concat_self, by rw [operates]; rfl⟩

theorem isUsed_concat_delete : IsUsed (events ++ [.delete place]) ↔ IsUsed events := by
  simp [IsUsed, or_and_right, exists_or, Event.use?]

theorem uses_concat_delete :
    (events ++ [Event.delete place]).filterMap Event.use? = events.filterMap Event.use? := by
  simp [Event.use?]

theorem uses_of_unused (unused : ¬ IsUsed events) : events.filterMap Event.use? = [] := by
  rw [List.filterMap_eq_nil_iff]
  intro event within
  rw [← Option.not_isSome_iff_eq_none]
  exact fun operates => unused ⟨event, within, operates⟩

theorem isSpared_concat : IsSpared target (events ++ [event]) ↔
    IsSpared target events ∧ (IsUsed events → ¬ event.Takes target) := by
  simp [IsSpared, IsUsed, List.pairwise_append]

theorem isSpared_concat_of_use (target : List String) (events : List Event)
    (operates : event.use? = some use) :
    IsSpared target (events ++ [event]) ↔ IsSpared target events := by
  rw [isSpared_concat]
  cases event with
  | delete place => cases operates
  | _ => simp [Event.Takes]

theorem remembered_concat (operates : event.use? = some use) :
    remembered ((events ++ [event]).filterMap Event.use?) =
      if use.isKept then use.after memory id (remembered (events.filterMap Event.use?))
      else remembered (events.filterMap Event.use?) := by
  rw [List.filterMap_append, remembered, List.filter_append, afterAll, List.foldl_append]
  cases kept : use.isKept <;> simp [operates, kept, remembered, afterAll]

end

end CacheStore

namespace Disk

open CacheStore (recorded Use Event IsUsed IsSpared memory remembered)

def delete (place : List String) (disk : Disk) : Disk :=
  { disk with files := disk.files.remove place }

/-- What an event leaves of the database at the path. -/
def afterEvent (path : Path) (event : Event) (disk : Disk) : Disk :=
  match event with
  | .get key => ((CacheStore.database path).get key disk).2
  | .upsert key entry => ((CacheStore.database path).upsert key entry disk).2
  | .delete place => disk.delete place

def afterEvents (path : Path) (events : List Event) (disk : Disk) : Disk :=
  events.foldl (fun disk event => disk.afterEvent path event) disk

/-- The folder of the database is there or can be made, and at the place of its file there is
nothing, or a database with the table. -/
structure Stands (path : Path) (start : List String) (table : Option CacheTable) (disk : Disk) :
    Prop where
  named : path.toText ≠ fileless
  starts : disk.files.start path = start
  clear : disk.files.IsClear start path.parent.segments
  short : ∀ segment ∈ path.segments, Files.isTooLong segment = false
  apart : ¬ Files.OnWay start path.parent.segments (Files.landing start path.segments)
  held : disk.files.entryAt (Files.landing start path.segments) = none ∧ table = none ∨
    disk.files.entryAt (Files.landing start path.segments) = some (.database table)

variable {path : Path} {disk : Disk} {start place : List String} {held : Option CacheTable}
  {rows table : CacheTable} {key : CacheKey} {entry : CacheEntry} {α : Type}

theorem Fresh.stands (fresh : disk.Fresh path) :
    disk.Stands path (disk.files.start path) none := by
  obtain ⟨files, place, made, folder, located⟩ := fresh.vacant
  have grown := Files.grown_ensureDirectory made
  obtain ⟨leads, rfl, absent⟩ := Files.follow_eq_ok_iff.mp located
  rw [grown.starts path] at leads absent
  refine ⟨fresh.named, rfl, Files.isClear_of_ensureDirectory made folder, leads.short, ?_,
    .inl ⟨?_, rfl⟩⟩
  · intro onWay
    rw [← grown.starts path] at onWay absent
    have there := Files.onWay_of_isDirectory folder onWay
    rw [← absent] at there
    cases there
  · rcases grown.entries _ with same | ⟨before, -⟩
    · exact same ▸ absent.symm
    · exact before

namespace Stands

theorem occupied (stands : disk.Stands path start held) :
    Files.landing start path.segments ≠ [] := by
  have vacant : disk.files.entryAt (Files.landing start path.segments) ≠ some .directory := by
    rcases stands.held with ⟨absent, -⟩ | there
    · simp [absent]
    · simp [there]
  exact Files.ne_root vacant

theorem put (stands : disk.Stands path start held) (table : Option CacheTable) (prepared : Bool) :
    Disk.Stands path start table
      ⟨disk.files.put (Files.landing start path.segments) (.database table), prepared⟩ := by
  have occupied := stands.occupied
  exact ⟨stands.named, stands.starts, stands.clear.put occupied stands.apart, stands.short,
    stands.apart, .inr (by rw [Files.entryAt_put occupied, if_pos rfl])⟩

theorem opens (stands : disk.Stands path start held) :
    ∃ files, disk.files.ensureDirectory path.parent = (.ok (), files) ∧
      openTable path files = .ok (held, Files.landing start path.segments) ∧
      Disk.Stands path start held ⟨files, disk.prepared⟩ := by
  obtain ⟨named, rfl, clear, short, apart, inside⟩ := stands
  obtain ⟨files, made, laid⟩ := Files.ensureDirectory_laid path.parent clear
  have starts : files.start path = disk.files.start path := by
    rw [Files.start, laid.current, Files.start]
  have aside := laid.aside _ apart
  have leads : files.Leads (files.start path) path.segments :=
    starts ▸ Files.leads_of_dropLast short laid.onWay
  refine ⟨files, made, ?_, named, starts, ?_, short, apart, aside ▸ inside⟩
  · rw [openTable, leads.locate, starts, aside]
    rcases inside with ⟨absent, rfl⟩ | there
    · rw [absent]
    · rw [there]
  · exact ⟨laid.onWay _ (Files.onWay_start ..), fun place onWay => .inr (laid.onWay place onWay),
      clear.short, clear.plain⟩

/-- A store that made the table finds none in a new file. -/
theorem withTable_lost (stands : disk.Stands path start none) (used : disk.prepared = true)
    (operation : CacheTable → Except StoreError (α × CacheTable)) :
    ∃ left, disk.withTable path operation = (.error ⟨"no such table: rule_cache"⟩, left) ∧
      left.Stands path start none ∧ left.prepared = true := by
  obtain ⟨files, made, found, opened⟩ := stands.opens
  refine ⟨_, ?_, opened.put none true, rfl⟩
  simp only [withTable, made, if_neg stands.named, found, if_neg stands.occupied, used, if_true]

/-- An operation is made on the table, or on a new one if the store did not make one before. -/
theorem withTable_kept (stands : disk.Stands path start held)
    (ready : disk.prepared = true → held.isSome = true)
    (operation : CacheTable → Except StoreError (α × CacheTable)) :
    ∃ left, disk.withTable path operation = ((operation (held.getD [])).map Prod.fst, left) ∧
      left.Stands path start (some (rowsAfter (held.getD []) (operation (held.getD [])))) ∧
      left.prepared = true := by
  obtain ⟨files, made, found, opened⟩ := stands.opens
  have seen : (if disk.prepared then held else some (held.getD [])) = some (held.getD []) := by
    split
    · rename_i used
      obtain ⟨rows, rfl⟩ := Option.isSome_iff_exists.mp (ready used)
      rfl
    · rfl
  refine ⟨_, ?_, opened.put _ true, rfl⟩
  simp only [withTable, made, if_neg stands.named, found, if_neg stands.occupied, seen]
  cases operation (held.getD []) <;> rfl

theorem get_kept (stands : disk.Stands path start held)
    (ready : disk.prepared = true → held.isSome = true) (key : CacheKey) :
    ((CacheStore.database path).get key disk).1 = .ok ((held.getD []).find? key) := by
  obtain ⟨left, ran, -⟩ := stands.withTable_kept ready fun rows => .ok (rows.find? key, rows)
  exact congrArg Prod.fst ran

theorem upsert_kept (stands : disk.Stands path start held)
    (ready : disk.prepared = true → held.isSome = true) (key : CacheKey)
    (number : entry.fetchedAt.isNaN = false) :
    ((CacheStore.database path).upsert key entry disk).1 = .ok () := by
  obtain ⟨left, ran, -⟩ := stands.withTable_kept ready fun rows =>
    .ok ((), rows.insert key (recorded entry))
  simp only [CacheStore.database, number, Bool.false_eq_true, if_false, ran]
  rfl

theorem reopened (stands : disk.Stands path start held) : disk.reopened.Stands path start held :=
  ⟨stands.named, stands.starts, stands.clear, stands.short, stands.apart, stands.held⟩

theorem delete (stands : disk.Stands path start held) (outside : ¬ place <+: start) :
    (disk.delete place).Stands path start
      (if place <+: Files.landing start path.segments then none else held) := by
  have occupied : place ≠ [] := by
    rintro rfl
    exact outside List.nil_prefix
  refine ⟨stands.named, stands.starts, stands.clear.remove outside, stands.short, stands.apart, ?_⟩
  rw [Disk.delete, Files.entryAt_remove occupied]
  split
  · exact .inl ⟨rfl, rfl⟩
  · exact stands.held

end Stands

/-- The database is as after the events: it has the entries that were given, unless it was taken
away after its store was used, which leaves the store without a table. -/
structure Follows (path : Path) (start : List String) (events : List Event) (disk : Disk)
    (held : Option CacheTable) : Prop where
  stands : disk.Stands path start held
  used : disk.prepared = true ↔ IsUsed events
  spared : IsSpared (Files.landing start path.segments) events →
    Mirrors (remembered (events.filterMap Event.use?)) (held.getD []) ∧
      (disk.prepared = true → held.isSome = true)
  lost : ¬ IsSpared (Files.landing start path.segments) events →
    held = none ∧ disk.prepared = true

theorem Fresh.follows (fresh : disk.Fresh path) :
    disk.Follows path (disk.files.start path) [] none where
  stands := fresh.stands
  used := by simp [fresh.unprepared, IsUsed]
  spared _ := ⟨.empty, by simp [fresh.unprepared]⟩
  lost taken := absurd List.Pairwise.nil taken

namespace Follows

variable {events : List Event} {event : Event} {use : Use}

/-- An operation keeps what the entries were given, or fails for the lack of a table. -/
theorem operate (follows : disk.Follows path start events held) (operates : event.use? = some use)
    (operation : CacheTable → Except StoreError (α × CacheTable))
    (ran : disk.afterEvent path event = (disk.withTable path operation).2)
    (mirrored : ∀ {table rows}, Mirrors table rows →
      Mirrors (if use.isKept then use.after memory id table else table)
        (rowsAfter rows (operation rows))) :
    ∃ held, (disk.afterEvent path event).Follows path start (events ++ [event]) held := by
  have used := CacheStore.isUsed_concat_of_use events operates
  have same := CacheStore.isSpared_concat_of_use (Files.landing start path.segments) events operates
  by_cases spared : IsSpared (Files.landing start path.segments) events
  · obtain ⟨mirrors, ready⟩ := follows.spared spared
    obtain ⟨left, result, stands, prepared⟩ := follows.stands.withTable_kept ready operation
    rw [ran, result]
    refine ⟨_, stands, by simp only [prepared, used], fun _ => ⟨?_, fun _ => rfl⟩, fun lost => ?_⟩
    · rw [CacheStore.remembered_concat operates]
      exact mirrored mirrors
    · exact absurd (same.mpr spared) lost
  · obtain ⟨rfl, prepared⟩ := follows.lost spared
    obtain ⟨left, result, stands, again⟩ := follows.stands.withTable_lost prepared operation
    rw [ran, result]
    exact ⟨none, stands, by simp only [again, used], fun kept => absurd (same.mp kept) spared,
      fun _ => ⟨rfl, again⟩⟩

theorem delete (follows : disk.Follows path start events held) (outside : ¬ place <+: start) :
    ∃ held, (disk.delete place).Follows path start (events ++ [.delete place]) held := by
  have used : (disk.delete place).prepared = true ↔ IsUsed (events ++ [.delete place]) :=
    follows.used.trans CacheStore.isUsed_concat_delete.symm
  refine ⟨_, follows.stands.delete outside, used, fun kept => ?_, fun lost => ?_⟩
  · obtain ⟨before, unspoilt⟩ := CacheStore.isSpared_concat.mp kept
    rw [CacheStore.uses_concat_delete]
    by_cases taken : place <+: Files.landing start path.segments
    · have unused : ¬ IsUsed events := fun used => unspoilt used taken
      rw [if_pos taken, CacheStore.uses_of_unused unused]
      exact ⟨.empty, fun prepared => absurd (follows.used.mp prepared) unused⟩
    · rw [if_neg taken]
      exact follows.spared before
  · by_cases before : IsSpared (Files.landing start path.segments) events
    · obtain ⟨used, taken⟩ : IsUsed events ∧ place <+: Files.landing start path.segments := by
        rw [CacheStore.isSpared_concat, not_and] at lost
        simpa [Event.Takes] using lost before
      exact ⟨if_pos taken, follows.used.mpr used⟩
    · obtain ⟨rfl, prepared⟩ := follows.lost before
      exact ⟨ite_self none, prepared⟩

/-- Each event keeps it so, if it does not take away the place where the path starts. -/
theorem after (follows : disk.Follows path start events held)
    (outside : ∀ place, event = .delete place → ¬ place <+: start) :
    ∃ held, (disk.afterEvent path event).Follows path start (events ++ [event]) held := by
  cases event with
  | get key =>
      have operates : (Event.get key).use? = some (.get key) := rfl
      exact follows.operate operates (fun rows => .ok (rows.find? key, rows)) rfl id
  | delete place => exact follows.delete (outside place rfl)
  | upsert key entry =>
      have operates : (Event.upsert key entry).use? = some (.upsert key entry) := rfl
      refine follows.operate operates (fun rows =>
        if entry.fetchedAt.isNaN then _ else .ok ((), rows.insert key (recorded entry)))
        rfl fun {table rows} mirrors => ?_
      cases number : entry.fetchedAt.isNaN with
      | true =>
          rw [Use.isKept, number]
          exact mirrors
      | false =>
          rw [Use.isKept, number]
          exact mirrors.insert key number

theorem afterEvents {events : List Event} (fresh : disk.Fresh path)
    (outside : ∀ place, .delete place ∈ events → ¬ place <+: disk.files.start path) :
    ∃ held, (disk.afterEvents path events).Follows path (disk.files.start path) events held := by
  induction events using List.reverseRecOn with
  | nil => exact ⟨none, fresh.follows⟩
  | append_singleton events event ih =>
      obtain ⟨held, follows⟩ := ih fun place within => outside place (List.mem_append_left _ within)
      rw [Disk.afterEvents, List.foldl_append]
      refine follows.after fun place same => outside place ?_
      rw [same]
      exact List.mem_concat_self

end Follows

end Disk

namespace CacheStore

/-- A database acts as the memory, unless its file is taken away after an operation of its store,
by itself or with a directory. Then every operation fails, as the store does not make the table
again. A new store makes it, and starts with no entries. -/
theorem database_after_deletions {path : Path} {disk : Disk} (fresh : disk.Fresh path)
    (events : List Event)
    (outside : ∀ place, .delete place ∈ events → ¬ place <+: disk.files.start path) :
    let store := database path
    let target := (disk.files.named path).segments
    let left := disk.afterEvents path events
    (IsSpared target events →
      (∀ key, ∃ found kept, (store.get key left).1 = .ok found ∧
        (memory.get key (remembered (events.filterMap Event.use?))).1 = .ok kept ∧
        found.Rel CacheEntry.Equal kept) ∧
      ∀ key entry, entry.fetchedAt.isNaN = false → (store.upsert key entry left).1 = .ok ()) ∧
    (¬ IsSpared target events →
      (∀ key, (store.get key left).1 = .error ⟨"no such table: rule_cache"⟩) ∧
      (∀ key entry, (store.upsert key entry left).1 = .error ⟨"no such table: rule_cache"⟩) ∧
      (∀ key, (store.get key left.reopened).1 = .ok none) ∧
      ∀ key entry, entry.fetchedAt.isNaN = false →
        (store.upsert key entry left.reopened).1 = .ok ()) := by
  intro store target left
  obtain ⟨held, follows⟩ := Disk.Follows.afterEvents fresh outside
  have spelled : target = Files.landing (disk.files.start path) path.segments :=
    Files.named_segments disk.files path
  rw [spelled]
  refine ⟨fun spared => ?_, fun lost => ?_⟩
  · obtain ⟨mirrors, ready⟩ := follows.spared spared
    exact ⟨fun key => ⟨_, _, follows.stands.get_kept ready key, rfl, mirrors.find?_equal key⟩,
      fun key entry number => follows.stands.upsert_kept ready key number⟩
  · obtain ⟨rfl, used⟩ := follows.lost lost
    have fails {α : Type} (operation : CacheTable → Except StoreError (α × CacheTable)) :
        (left.withTable path operation).1 = .error ⟨"no such table: rule_cache"⟩ := by
      obtain ⟨after, ran, -⟩ := follows.stands.withTable_lost used operation
      exact congrArg Prod.fst ran
    have unused : left.reopened.prepared = true → (none : Option CacheTable).isSome = true := nofun
    exact ⟨fun key => fails _, fun key entry => fails _, follows.stands.reopened.get_kept unused,
      fun key entry number => follows.stands.reopened.upsert_kept unused key number⟩

namespace Sample

/-- An entry, and then the directory with the file is deleted. -/
def events : List Event := [.upsert { topic := "python" } ⟨"v1", 1⟩, .delete ["w", "db"]]

theorem entry_lost :
    disk.Fresh path ∧ (∀ place, .delete place ∈ events → ¬ place <+: disk.files.start path) ∧
    ((database path).get { topic := "python" } (disk.afterEvents path events)).1 =
      .error ⟨"no such table: rule_cache"⟩ := by
  have outside : ∀ place, .delete place ∈ events → ¬ place <+: disk.files.start path := by
    intro place within
    obtain rfl : place = ["w", "db"] := by simpa [events] using within
    decide
  have taken : ¬ IsSpared (disk.files.named path).segments events := by
    intro spared
    have later := (List.pairwise_cons.mp spared).1 (.delete ["w", "db"]) (by simp)
    exact later rfl ⟨["rules.sqlite"], rfl⟩
  exact ⟨fresh, outside, ((database_after_deletions fresh events outside).2 taken).1 _⟩

/-- The file of a store that was asked for an entry is deleted, and the store fails. -/
theorem empty_table_not_made_again :
    disk.Fresh path ∧ ((database path).get { topic := "python" } (disk.afterEvents path
      [.get { topic := "python" }, .delete (disk.files.named path).segments])).1 =
      .error ⟨"no such table: rule_cache"⟩ :=
  ⟨fresh, rfl⟩

end Sample

end CacheStore

end Rulebook
