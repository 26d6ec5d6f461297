import Rulebook.Proofs.Cache.Database
import Rulebook.Proofs.Decimal.Comparison

namespace Rulebook

/-- The entries are equal: the texts are the same, and the times are equal as numbers. -/
structure CacheEntry.Equal (entry other : CacheEntry) : Prop where
  content : entry.content = other.content
  fetchedAt : (entry.fetchedAt == other.fetchedAt) = true

namespace CacheStore

theorem recorded_equal {entry : CacheEntry} (number : entry.fetchedAt.isNaN = false) :
    (recorded entry).Equal entry := by
  refine ⟨rfl, ?_⟩
  unfold recorded
  by_cases zero : (entry.fetchedAt == 0) = true
  · simpa [zero] using Decimal.beq_symm zero
  · simpa [zero] using Decimal.beq_self_of_number number

variable {σ κ ν ε : Type}

/-- A use of a store. Reopening puts a new store in the place of the one in use. -/
inductive Use (κ : Type := CacheKey) (ν : Type := CacheEntry) where
  | get (key : κ)
  | upsert (key : κ) (entry : ν)
  | reopen

/-- What a use leaves, if a new store starts with `reopened` of what there is. -/
def Use.after (store : CacheStore σ κ ν ε) (reopened : σ → σ) (use : Use κ ν) (state : σ) : σ :=
  match use with
  | .get key => (store.get key state).2
  | .upsert key entry => (store.upsert key entry state).2
  | .reopen => reopened state

def afterAll (store : CacheStore σ κ ν ε) (reopened : σ → σ) (uses : List (Use κ ν)) (state : σ) :
    σ :=
  uses.foldl (fun state use => use.after store reopened state) state

/-- An entry is given to the store whose time is a number. -/
def Use.isKept : Use → Bool
  | .upsert _ entry => !entry.fetchedAt.isNaN
  | _ => false

/-- The memory after the entries among the uses whose times are numbers. -/
def remembered (uses : List Use) : CacheTable :=
  afterAll memory id (uses.filter Use.isKept) []

end CacheStore

namespace Disk

open CacheStore (recorded Use afterAll memory)

variable {path : Path} {disk : Disk} {rows table : CacheTable} {place : List String}
  {key : CacheKey} {entry : CacheEntry}

/-- What a new store starts with. -/
def reopened (disk : Disk) : Disk := { disk with prepared := false }

/-- No file is at the path, its folder is there or can be made, and the store is new. -/
structure Fresh (path : Path) (disk : Disk) : Prop where
  named : path.toText ≠ fileless
  unprepared : disk.prepared = false
  vacant : ∃ files place, disk.files.ensureDirectory path.parent = (.ok (), files) ∧
    files.isDirectory path.parent = .ok true ∧ files.locate path = .ok (place, none)

theorem Fresh.serves (fresh : disk.Fresh path) : disk.Serves path [] := by
  obtain ⟨files, place, made, folder, located⟩ := fresh.vacant
  have absent : files.entryAt place = none := (Files.follow_entry located).symm
  have notDirectory : files.entryAt place ≠ some .directory := by simp [absent]
  have occupied := Files.ne_root notDirectory
  have found : openTable path files = .ok (none, place) := by simp only [openTable, located]
  have opens : disk.opened path = (.ok [], ⟨files.put place (.database (some [])), true⟩) := by
    simp only [opened, Disk.withTable, made, if_neg fresh.named, found, if_neg occupied,
      fresh.unprepared]
    rfl
  have holds : HoldsAt path place [] ⟨files.put place (.database (some [])), true⟩ :=
    ⟨fresh.named, Files.isDirectory_put notDirectory folder,
      (Files.follow_put notDirectory located).trans (by rw [if_pos rfl])⟩
  exact ⟨congrArg Prod.fst opens, place, opens ▸ holds⟩

/-- A table that is there is found again by a new store. -/
theorem Serves.reopened (serves : disk.Serves path rows) : disk.reopened.Serves path rows := by
  have same : disk.reopened.opened path = disk.opened path := by
    have named := serves.holds.choose_spec.named
    have opens := serves.opens
    simp only [opened, Disk.withTable, Disk.reopened, if_neg named] at opens ⊢
    generalize disk.files.ensureDirectory path.parent = ensured at opens ⊢
    obtain ⟨made, files⟩ := ensured
    cases made with
    | error error => simp at opens
    | ok made =>
        cases found : openTable path files with
        | error error => simp [found] at opens
        | ok opening =>
            obtain ⟨table, place⟩ := opening
            simp only [found] at opens ⊢
            cases table with
            | some rows => simp
            | none =>
                cases prepared : disk.prepared with
                | false => rfl
                | true => simp [prepared] at opens
  exact ⟨same ▸ serves.opens, same ▸ serves.holds⟩

/-- The table in the file at the path is the one that is served. -/
theorem Serves.rows_unique {held : CacheTable} (serves : disk.Serves path rows)
    (located : disk.files.locate path = .ok (place, some (.database (some held)))) :
    held = rows := by
  have named := serves.holds.choose_spec.named
  have opens := serves.opens
  have found : openTable path disk.files = .ok (some held, place) := by
    simp only [openTable, located]
  simp only [opened, Disk.withTable, Files.ensureDirectory, Files.makeDirectories,
    Files.makeDirectory_parent located, if_neg named, found, Option.getD_some, ite_self] at opens
  split at opens
  · cases opens
  · exact Except.ok.inj opens

theorem Serves.get_result (serves : disk.Serves path rows) (key : CacheKey) :
    ((CacheStore.database path).get key disk).1 = .ok (rows.find? key) := by
  obtain ⟨left, ran, -⟩ := serves.withTable fun rows => .ok (rows.find? key, rows)
  exact congrArg Prod.fst ran

theorem Serves.get_left (serves : disk.Serves path rows) (key : CacheKey) :
    ((CacheStore.database path).get key disk).2.Serves path rows := by
  obtain ⟨left, ran, again, -⟩ := serves.withTable fun rows => .ok (rows.find? key, rows)
  exact (congrArg Prod.snd ran).symm ▸ again

theorem Serves.upsert_number (serves : disk.Serves path rows) (key : CacheKey)
    (number : entry.fetchedAt.isNaN = false) :
    ((CacheStore.database path).upsert key entry disk).1 = .ok () ∧
      ((CacheStore.database path).upsert key entry disk).2.Serves path
        (rows.insert key (recorded entry)) := by
  obtain ⟨left, ran, again, -⟩ := serves.withTable fun rows =>
    .ok ((), rows.insert key (recorded entry))
  simp only [CacheStore.database, number, Bool.false_eq_true, if_false, ran]
  exact ⟨rfl, again⟩

theorem Serves.upsert_refused (serves : disk.Serves path rows) (key : CacheKey)
    (none : entry.fetchedAt.isNaN = true) :
    ((CacheStore.database path).upsert key entry disk).1 =
        .error ⟨"NOT NULL constraint failed: rule_cache.fetched_at"⟩ ∧
      ((CacheStore.database path).upsert key entry disk).2.Serves path rows := by
  obtain ⟨left, ran, again, -⟩ := serves.withTable fun _ =>
    (.error ⟨"NOT NULL constraint failed: rule_cache.fetched_at"⟩ :
      Except StoreError (Unit × CacheTable))
  simp only [CacheStore.database, none, if_true, ran]
  exact ⟨rfl, again⟩

/-- The rows are those of the table in memory, as a database keeps them. -/
structure Mirrors (table rows : CacheTable) : Prop where
  distinct : rows.Distinct
  found : ∀ key, rows.find? key = (table.find? key).map recorded
  numbers : ∀ key entry, table.find? key = some entry → entry.fetchedAt.isNaN = false

theorem Mirrors.empty : Mirrors [] [] :=
  ⟨List.nodup_nil, fun _ => rfl, fun _ _ there => by cases there⟩

theorem Mirrors.find?_equal (mirrors : Mirrors table rows) (key : CacheKey) :
    (rows.find? key).Rel CacheEntry.Equal (table.find? key) := by
  rw [mirrors.found key]
  cases held : table.find? key with
  | none => exact .none
  | some entry => exact .some (CacheStore.recorded_equal (mirrors.numbers key entry held))

theorem Mirrors.insert (mirrors : Mirrors table rows) (key : CacheKey)
    (number : entry.fetchedAt.isNaN = false) :
    Mirrors (table.insert key entry) (rows.insert key (recorded entry)) where
  distinct := CacheTable.insert_distinct mirrors.distinct key (recorded entry)
  found other := by
    rw [CacheTable.find?_insert, CacheTable.find?_insert]
    split
    · rfl
    · exact mirrors.found other
  numbers other held there := by
    rw [CacheTable.find?_insert] at there
    split at there
    · cases there
      exact number
    · exact mirrors.numbers other held there

/-- The database answers as the table in memory. -/
def Refines (path : Path) (table : CacheTable) (disk : Disk) : Prop :=
  ∃ rows, disk.Serves path rows ∧ Mirrors table rows

theorem Fresh.refines (fresh : disk.Fresh path) : disk.Refines path [] :=
  ⟨[], fresh.serves, .empty⟩

/-- One use of both keeps it so, where the memory is not given what is refused. -/
theorem Refines.after (refines : disk.Refines path table) (use : Use) :
    (use.after (CacheStore.database path) reopened disk).Refines path
      (if use.isKept then use.after memory id table else table) := by
  obtain ⟨rows, serves, mirrors⟩ := refines
  cases use with
  | get key => exact ⟨rows, serves.get_left key, mirrors⟩
  | reopen => exact ⟨rows, serves.reopened, mirrors⟩
  | upsert key entry =>
      cases number : entry.fetchedAt.isNaN with
      | false =>
          refine ⟨_, (serves.upsert_number key number).2, ?_⟩
          have kept : (Use.upsert key entry).isKept = true := by simp only [Use.isKept, number,
            Bool.not_false]
          rw [if_pos kept]
          exact mirrors.insert key number
      | true =>
          refine ⟨rows, (serves.upsert_refused key number).2, ?_⟩
          have refused : (Use.upsert key entry).isKept = false := by simp only [Use.isKept, number,
            Bool.not_true]
          simpa only [refused, Bool.false_eq_true, if_false] using mirrors

end Disk

namespace CacheStore.Sample

/-- A new store, in a directory without other files. -/
def disk : Disk := ⟨⟨[(["w"], .directory)], ["w"]⟩, false⟩

def path : Path := Path.parse "db/rules.sqlite"

theorem fresh : disk.Fresh path := ⟨by decide, rfl, _, _, rfl, rfl, rfl⟩

end CacheStore.Sample

end Rulebook
