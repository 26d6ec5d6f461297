import Rulebook.Proofs.Cache.Database
import Rulebook.Proofs.Loading.Source

namespace Rulebook

open CacheStore (recorded)

namespace Disk

/-- The database can be opened, and the same is to be seen of the paths as in the files given,
before that and afterwards. -/
structure Shows (database : Path) (paths : List Path) (files : Files) (disk : Disk) : Prop where
  serves : ∃ rows, disk.Serves database rows
  before : ∀ path ∈ paths, disk.files.glance path = files.glance path
  after : ∀ path ∈ paths, (disk.opened database).2.files.glance path = files.glance path

variable {database : Path} {paths : List Path} {files : Files} {disk : Disk} {rows : CacheTable}
  {α : Type}

theorem Shows.withTable (inside : disk.Shows database paths files)
    (operation : CacheTable → Except StoreError (α × CacheTable)) :
    (disk.withTable database operation).2.Shows database paths files := by
  obtain ⟨rows, serves⟩ := inside.serves
  obtain ⟨left, ran, again, alike, later⟩ := serves.withTable operation
  rw [ran]
  exact ⟨⟨_, again⟩, fun path named => (alike.glance path).trans (inside.after path named),
    fun path named => (later.glance path).trans (inside.after path named)⟩

theorem Serves.found (serves : disk.Serves database rows) (key : CacheKey) :
    ∃ left, (CacheStore.database database).found key disk = (rows.find? key, left) ∧
      left.entries database = rows.find? := by
  obtain ⟨left, ran, again, -⟩ := serves.withTable fun rows => .ok (rows.find? key, rows)
  refine ⟨left, ?_, again.entries⟩
  simp only [CacheStore.found, CacheStore.database, ran]
  rfl

theorem Serves.kept (serves : disk.Serves database rows) (key : CacheKey) (entry : CacheEntry) :
    ((CacheStore.database database).kept key (some entry) disk).entries database =
      if entry.fetchedAt.isNaN then rows.find? else (rows.insert key (recorded entry)).find? := by
  obtain ⟨left, ran, again, -⟩ := serves.withTable fun rows =>
    if entry.fetchedAt.isNaN then .error ⟨"NOT NULL constraint failed: rule_cache.fetched_at"⟩
    else .ok ((), rows.insert key (recorded entry))
  simp only [CacheStore.kept, CacheStore.database, ran]
  rw [again.entries]
  split <;> rfl

end Disk

namespace Loader

variable {catalog : Catalog} {remote : Remote} {database : Path}

/-- A loader with a database among the files. -/
def onDisk (catalog : Catalog) (remote : Remote) (database : Path) : Loader Disk :=
  ⟨catalog, remote, .database database, Disk.files⟩

theorem onDisk_confined (catalog : Catalog) (remote : Remote) (database : Path)
    (paths : List Path) (files : Files) :
    (onDisk catalog remote database).Confined (Disk.entries database) paths
      (Disk.Shows database paths files) where
  found_result key disk inside := by
    obtain ⟨rows, serves⟩ := inside.serves
    obtain ⟨left, found, -⟩ := serves.found key
    simp only [onDisk, found, serves.entries]
  found_entries key disk inside := by
    obtain ⟨rows, serves⟩ := inside.serves
    obtain ⟨left, found, same⟩ := serves.found key
    simp only [onDisk, found, same, serves.entries]
  found_world key disk inside := by
    have left := inside.withTable fun rows => .ok (rows.find? key, rows)
    simp only [onDisk, CacheStore.found, CacheStore.database]
    split <;> rename_i answered <;> simpa only [answered] using left
  kept_other key entry disk other inside different := by
    obtain ⟨rows, serves⟩ := inside.serves
    cases entry with
    | none => rfl
    | some entry =>
        simp only [onDisk, serves.kept, serves.entries]
        split
        · rfl
        · rw [CacheTable.find?_insert, if_neg different]
  kept_world key entry disk inside := by
    cases entry with
    | none => exact inside
    | some entry => exact inside.withTable _
  glance first second inside again path named :=
    (inside.before path named).trans (again.before path named).symm

variable {paths : List Path} {files : Files} {time : Float}

theorem onDisk_records (number : time.isNaN = false) :
    (onDisk catalog remote database).store.Records (Disk.entries database)
      (Disk.Shows database paths files) time := by
  intro key content disk inside
  obtain ⟨rows, serves⟩ := inside.serves
  simp only [onDisk, serves.kept, number, Bool.false_eq_true, if_false, CacheTable.find?_insert,
    if_pos, Option.map_some, recorded]

theorem onDisk_recordsOrRefuses :
    (onDisk catalog remote database).store.RecordsOrRefuses (Disk.entries database)
      (Disk.Shows database paths files) time := by
  cases number : time.isNaN with
  | false => exact (onDisk_records number).orRefuses
  | true =>
      intro key content disk inside
      obtain ⟨rows, serves⟩ := inside.serves
      exact .inr (by simp only [onDisk, serves.kept, number, if_true, serves.entries])

end Loader

end Rulebook
