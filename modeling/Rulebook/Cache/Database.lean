import Rulebook.Cache.Store
import Rulebook.Files

/-!
A store in a database file. The file is opened anew for every operation, but the table in it is
made only once by each store: a file that is replaced by a new one afterwards lacks it. A file of
at most one byte counts as a new database, and no other file that was not made here is one.
-/

namespace Rulebook

/-- The files around a database, and what its store remembers. -/
structure Disk where
  files : Files
  /-- The store has made the table. -/
  prepared : Bool := false

namespace Disk

/-- A name for a database without a file. -/
def fileless : String := ":memory:"

/-- The bytes with which a database file begins. -/
def signature : List UInt8 := ("SQLite format 3\x00".toUTF8).toList

/-- The bytes begin with the head of a database: the signature, a page size that is a power of two
from 512 to 65536, pages of at least 480 usable bytes, a known version, and the fixed shares of a
page that its content may take. -/
def hasHead (bytes : List UInt8) : Bool :=
  let byte := fun index => (bytes.getD index 0).toNat
  let pageSize := byte 16 * 256 + byte 17 * 65536
  signature.isPrefixOf bytes && byte 19 ≤ 2 &&
    (List.range 8).any (fun power => pageSize == 512 <<< power) && 480 ≤ pageSize - byte 20 &&
    byte 21 == 64 && byte 22 == 32 && byte 23 == 32

/-- Opens the database at a path: its table, if it has one, and the place of its file, which is
made if it is missing. -/
def openTable (path : Path) (files : Files) :
    Except StoreError (Option CacheTable × List String) :=
  match files.locate path with
  | .error _ => .error ⟨"unable to open database file"⟩
  | .ok (place, entry) => match entry with
      | some .directory | some .loop => .error ⟨"unable to open database file"⟩
      | some (.database table) => .ok (table, place)
      | some (.file [_]) | some (.file []) | none => .ok (none, place)
      | some (.file bytes) =>
          if hasHead bytes then .error ⟨"database disk image is malformed"⟩
          else .error ⟨"file is not a database"⟩

/-- Runs an operation on the table of the database at a path. The operation's result and the table
that it leaves are kept only together. -/
def withTable (path : Path) (operation : CacheTable → Except StoreError (α × CacheTable))
    (disk : Disk) : Except StoreError α × Disk :=
  let (made, files) := disk.files.ensureDirectory path.parent
  let disk := { disk with files }
  match made with
  | .error error => (.error ⟨error.message⟩, disk)
  | .ok () =>
      let opened := if path.toText = fileless then .ok (none, []) else openTable path files
      match opened with
      | .error error => (.error error, disk)
      | .ok (table, place) =>
          let keep := fun table =>
            if place = [] then files else files.put place (.database table)
          let table := if disk.prepared then table else some (table.getD [])
          let disk : Disk := ⟨keep table, true⟩
          match table with
          | none => (.error ⟨"no such table: rule_cache"⟩, disk)
          | some rows => match operation rows with
              | .error error => (.error error, disk)
              | .ok (result, rows) => (.ok result, { disk with files := keep (some rows) })

end Disk

namespace CacheStore

/-- An entry as a database keeps it: a time of zero has no sign. -/
def recorded (entry : CacheEntry) : CacheEntry :=
  { entry with fetchedAt := if entry.fetchedAt == 0 then 0 else entry.fetchedAt }

/-- Keeps documents in the database at a path. A time that is not a number is refused. Keys and
texts that are no strings are left to `codedDatabase`. -/
def database (path : Path) : CacheStore Disk where
  get key := Disk.withTable path fun rows => .ok (rows.find? key, rows)
  upsert key entry := Disk.withTable path fun rows =>
    if entry.fetchedAt.isNaN then .error ⟨"NOT NULL constraint failed: rule_cache.fetched_at"⟩
    else .ok ((), rows.insert key (recorded entry))

end CacheStore

end Rulebook
