import Rulebook.Cache.Database
import Rulebook.Proofs.Files.Making

namespace Rulebook

namespace Disk

variable {path : Path} {disk : Disk} {rows more : CacheTable} {place : List String} {α : Type}

/-- Opens the database: its rows, and the disk that is left. -/
def opened (path : Path) (disk : Disk) : Except StoreError CacheTable × Disk :=
  disk.withTable path fun rows => .ok (rows, rows)

/-- The rows that an operation leaves. -/
def rowsAfter (rows : CacheTable) : Except StoreError (α × CacheTable) → CacheTable
  | .ok (_, after) => after
  | .error _ => rows

/-- The folder of the database is there, and a file with a table in it at the place. -/
structure HoldsAt (path : Path) (place : List String) (rows : CacheTable) (disk : Disk) : Prop where
  named : path.toText ≠ fileless
  folder : disk.files.isDirectory path.parent = .ok true
  located : disk.files.locate path = .ok (place, some (.database (some rows)))

/-- The disk with other rows in the database at a place. -/
def withRows (place : List String) (rows : CacheTable) (disk : Disk) : Disk :=
  ⟨disk.files.put place (.database (some rows)), true⟩

namespace HoldsAt

theorem entryAt (holds : disk.HoldsAt path place rows) :
    disk.files.entryAt place = some (.database (some rows)) :=
  (Files.follow_entry holds.located).symm

theorem alike (holds : disk.HoldsAt path place rows) (more : CacheTable) :
    disk.files.Alike (disk.withRows place more).files :=
  Files.alike_put holds.entryAt (some more)

theorem withRows (holds : disk.HoldsAt path place rows) (more : CacheTable) :
    (disk.withRows place more).HoldsAt path place more where
  named := holds.named
  folder := ((holds.alike more).isDirectory _).trans holds.folder
  located := by
    have vacant : disk.files.entryAt place ≠ some .directory := by simp [holds.entryAt]
    exact (Files.follow_put vacant holds.located).trans (by rw [if_pos rfl])

theorem withTable (holds : disk.HoldsAt path place rows)
    (operation : CacheTable → Except StoreError (α × CacheTable)) :
    disk.withTable path operation =
      ((operation rows).map Prod.fst, disk.withRows place (rowsAfter rows (operation rows))) := by
  have occupied : place ≠ [] := fun root => by simpa [root, Files.entryAt] using holds.entryAt
  have found : openTable path disk.files = .ok (some rows, place) := by
    simp only [openTable, holds.located]
  simp only [Disk.withTable, Files.ensureDirectory_of_isDirectory holds.folder,
    if_neg holds.named, found, if_neg occupied, Option.getD_some, ite_self]
  cases operation rows <;> rfl

end HoldsAt

theorem openTable_located {files : Files} {table : Option CacheTable}
    (found : openTable path files = .ok (table, place)) :
    ∃ entry, files.locate path = .ok (place, entry) ∧ files.entryAt place ≠ some .directory := by
  unfold openTable at found
  match located : files.locate path with
  | .error problem => simp [located] at found
  | .ok (there, entry) =>
      have held : entry = files.entryAt there := Files.follow_entry located
      have fileThere : entry ≠ some .directory := by
        rintro rfl
        simp only [located] at found
        cases found
      obtain rfl : there = place := by
        rw [located] at found
        match entry with
        | some (.database _) | some (.file []) | some (.file [_]) | none =>
            cases found
            rfl
        | some (.file (first :: second :: rest)) =>
            by_cases headed : hasHead (first :: second :: rest) <;> simp [headed] at found
        | some .directory => cases found
      exact ⟨entry, rfl, held ▸ fileThere⟩

/-- An operation acts on a disk as it acts on the one that is left by opening the database. -/
theorem withTable_opened {after : Disk} (opens : disk.opened path = (.ok rows, after))
    (holds : after.HoldsAt path place rows)
    (operation : CacheTable → Except StoreError (α × CacheTable)) :
    disk.withTable path operation = after.withTable path operation := by
  rw [holds.withTable]
  simp only [opened, Disk.withTable] at opens ⊢
  generalize disk.files.ensureDirectory path.parent = ensured at opens ⊢
  obtain ⟨made, files⟩ := ensured
  cases made with
  | error error => simp at opens
  | ok made =>
      simp only [if_neg holds.named] at opens ⊢
      cases found : openTable path files with
      | error error => simp [found] at opens
      | ok opening =>
          obtain ⟨table, there⟩ := opening
          obtain ⟨entry, located, vacant⟩ := openTable_located found
          have occupied := Files.ne_root vacant
          simp only [found, if_neg occupied] at opens ⊢
          cases read : if disk.prepared then table else some (table.getD []) with
          | none => simp [read] at opens
          | some held =>
              simp only [read, Prod.mk.injEq, Except.ok.injEq] at opens ⊢
              obtain ⟨rfl, rfl⟩ := opens
              have same : place = there := by
                have again := holds.located.symm.trans (Files.follow_put vacant located)
                exact congrArg Prod.fst (Except.ok.inj again)
              subst same
              simp only [Disk.withRows, Files.put_put]
              cases operation held <;> rfl

/-- The database can be opened, and is then there with the rows. -/
structure Serves (path : Path) (rows : CacheTable) (disk : Disk) : Prop where
  opens : (disk.opened path).1 = .ok rows
  holds : ∃ place, (disk.opened path).2.HoldsAt path place rows

theorem HoldsAt.opened (holds : disk.HoldsAt path place rows) :
    disk.opened path = (.ok rows, disk.withRows place rows) :=
  holds.withTable _

theorem HoldsAt.serves (holds : disk.HoldsAt path place rows) : disk.Serves path rows :=
  ⟨congrArg Prod.fst holds.opened, place, holds.opened ▸ holds.withRows rows⟩

/-- An operation leaves a database that can be opened, on a disk that looks as it does when the
database is opened. -/
theorem Serves.withTable (serves : disk.Serves path rows)
    (operation : CacheTable → Except StoreError (α × CacheTable)) :
    ∃ left, disk.withTable path operation = ((operation rows).map Prod.fst, left) ∧
      left.Serves path (rowsAfter rows (operation rows)) ∧
      (disk.opened path).2.files.Alike left.files ∧
      (disk.opened path).2.files.Alike (left.opened path).2.files := by
  obtain ⟨place, holds⟩ := serves.holds
  have opens : disk.opened path = (.ok rows, (disk.opened path).2) := Prod.ext serves.opens rfl
  have left := holds.withRows (rowsAfter rows (operation rows))
  have alike := holds.alike (rowsAfter rows (operation rows))
  refine ⟨_, (withTable_opened opens holds operation).trans (holds.withTable operation),
    left.serves, alike, alike.trans ?_⟩
  rw [left.opened]
  exact left.alike _

/-- What is found in the database, if it can be opened. -/
def entries (path : Path) (disk : Disk) : CacheKey → Option CacheEntry :=
  match (disk.opened path).1 with
  | .ok rows => rows.find?
  | .error _ => fun _ => none

theorem Serves.entries (serves : disk.Serves path rows) : disk.entries path = rows.find? := by
  simp only [Disk.entries, serves.opens]

end Disk

end Rulebook
