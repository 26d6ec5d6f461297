import Rulebook.Cache.Coded
import Rulebook.Proofs.Cache.Refinement
import Rulebook.Proofs.Text.CodePoint

namespace Rulebook

namespace CodedKey

variable {key : CodedKey} {error : EncodeError}

/-- None of the key's texts has a surrogate. -/
def IsPlain (key : CodedKey) : Prop :=
  key.topic.IsPlain ∧ key.version.IsPlain ∧ key.framework.IsPlain

instance : Decidable key.IsPlain := 
  inferInstanceAs (Decidable (key.topic.IsPlain ∧ key.version.IsPlain ∧ key.framework.IsPlain))

theorem encode_ofKey (read : CacheKey) : (ofKey read).encode = .ok read := by
  simp only [encode, ofKey, CodeText.encode_ofString]
  rfl

theorem ofKey_injective {read other : CacheKey} (same : ofKey read = ofKey other) : read = other :=
  Except.ok.inj ((encode_ofKey read).symm.trans (same ▸ encode_ofKey other))

theorem ofKey_isPlain (read : CacheKey) : (ofKey read).IsPlain :=
  ⟨CodeText.ofString_isPlain _, CodeText.ofString_isPlain _, CodeText.ofString_isPlain _⟩

theorem exists_ofKey (plain : key.IsPlain) : ∃ read, key = ofKey read := by
  obtain ⟨topic, version, framework⟩ := key
  obtain ⟨topic, rfl⟩ := CodeText.exists_ofString plain.1
  obtain ⟨version, rfl⟩ := CodeText.exists_ofString plain.2.1
  obtain ⟨framework, rfl⟩ := CodeText.exists_ofString plain.2.2
  exact ⟨⟨topic, version, framework⟩, rfl⟩

theorem exists_encode_error (marred : ¬ key.IsPlain) : ∃ error, key.encode = .error error := by
  cases topic : key.topic.encode with
  | error error => exact ⟨error, by rw [encode, topic]; rfl⟩
  | ok topicRead =>
      cases version : key.version.encode with
      | error error => exact ⟨error, by rw [encode, topic, version]; rfl⟩
      | ok versionRead =>
          cases framework : key.framework.encode with
          | error error => exact ⟨error, by rw [encode, topic, version, framework]; rfl⟩
          | ok frameworkRead =>
              exact absurd ⟨CodeText.exists_encode_iff.mp ⟨_, topic⟩,
                CodeText.exists_encode_iff.mp ⟨_, version⟩,
                CodeText.exists_encode_iff.mp ⟨_, framework⟩⟩ marred

end CodedKey

namespace CodedEntry

/-- The entries are equal: the texts are the same, and the times are equal as numbers. -/
structure Equal (entry other : CodedEntry) : Prop where
  content : entry.content = other.content
  fetchedAt : (entry.fetchedAt == other.fetchedAt) = true

variable {entry : CodedEntry}

theorem encode_ofEntry (read : CacheEntry) : (ofEntry read).encode = .ok read := by
  simp only [encode, ofEntry, CodeText.encode_ofString]
  rfl

theorem exists_ofEntry (plain : entry.content.IsPlain) : ∃ read, entry = ofEntry read := by
  obtain ⟨content, fetchedAt⟩ := entry
  obtain ⟨content, rfl⟩ := CodeText.exists_ofString plain
  exact ⟨⟨content, fetchedAt⟩, rfl⟩

theorem exists_encode_error (marred : ¬ entry.content.IsPlain) :
    ∃ error, entry.encode = .error error := by
  obtain ⟨error, failed⟩ := CodeText.exists_encode_error_iff.mpr marred
  exact ⟨error, by rw [encode, failed]; rfl⟩

theorem equal_ofEntry {read other : CacheEntry} (equal : read.Equal other) :
    (ofEntry read).Equal (ofEntry other) :=
  ⟨congrArg CodeText.ofString equal.content, equal.fetchedAt⟩

end CodedEntry

namespace CacheStore

variable {path : Path} {disk : Disk} {key : CodedKey} {entry : CodedEntry} {error : EncodeError}

/-- What is given to the store can be encoded, and its time is a number. -/
def Use.IsTaken : Use CodedKey CodedEntry → Prop
  | .upsert key entry => key.IsPlain ∧ entry.content.IsPlain ∧ entry.fetchedAt.isNaN = false
  | _ => False

instance : DecidablePred Use.IsTaken
  | .upsert key entry => inferInstanceAs
      (Decidable (key.IsPlain ∧ entry.content.IsPlain ∧ entry.fetchedAt.isNaN = false))
  | .get _ | .reopen => inferInstanceAs (Decidable False)

/-- The memory after those entries among the uses that a database takes. -/
def taken (uses : List (Use CodedKey CodedEntry)) : CacheTable CodedKey CodedEntry :=
  afterAll memory id (uses.filter (·.IsTaken)) []

/-- With a text that has no surrogates the database acts as with the same string. -/
theorem codedDatabase_get_ofKey (path : Path) (read : CacheKey) (disk : Disk) :
    (codedDatabase path).get (.ofKey read) disk =
      ((((database path).get read disk).1.mapError .unavailable).map (·.map .ofEntry),
        ((database path).get read disk).2) := by
  simp only [codedDatabase, CodedKey.encode_ofKey, onEncoded]

theorem codedDatabase_upsert_ofKey (path : Path) (read : CacheKey) (entry : CacheEntry)
    (disk : Disk) : (codedDatabase path).upsert (.ofKey read) (.ofEntry entry) disk =
      (((database path).upsert read entry disk).1.mapError .unavailable,
        ((database path).upsert read entry disk).2) := by
  simp only [codedDatabase, CodedKey.encode_ofKey, CodedEntry.encode_ofEntry]
  rfl

theorem encode_both_error
    (failed : key.encode = .error error ∨ key.IsPlain ∧ entry.encode = .error error) :
    (do return (← key.encode, ← entry.encode) : Except EncodeError (CacheKey × CacheEntry)) =
      .error error := by
  rcases failed with failed | ⟨plain, failed⟩
  · rw [failed]
    rfl
  · obtain ⟨read, rfl⟩ := CodedKey.exists_ofKey plain
    rw [CodedKey.encode_ofKey, failed]
    rfl

theorem exists_encode_both_error (marred : ¬ (key.IsPlain ∧ entry.content.IsPlain)) :
    ∃ error, key.encode = .error error ∨ key.IsPlain ∧ entry.encode = .error error := by
  by_cases plain : key.IsPlain
  · obtain ⟨error, failed⟩ := CodedEntry.exists_encode_error fun content => marred ⟨plain, content⟩
    exact ⟨error, .inr ⟨plain, failed⟩⟩
  · obtain ⟨error, failed⟩ := CodedKey.exists_encode_error plain
    exact ⟨error, .inl failed⟩

end CacheStore

namespace Disk

open CacheStore (Use afterAll memory database codedDatabase onEncoded)

variable {path : Path} {disk : Disk} {rows plain : CacheTable}
  {table : CacheTable CodedKey CodedEntry} {key : CodedKey} {entry : CodedEntry}
  {error : EncodeError}

/-- What cannot be encoded is refused, and the rows stay. -/
theorem Serves.onEncoded_error {α β : Type} (serves : disk.Serves path rows) (error : EncodeError)
    (operation : α → Disk → Except StoreError β × Disk) :
    (onEncoded path (.error error) operation disk).1 = .error (.unencodable error) ∧
      (onEncoded path (.error error) operation disk).2.Serves path rows := by
  obtain ⟨left, ran, again, -⟩ := serves.withTable fun rows => .ok ((), rows)
  simp only [onEncoded, ran]
  exact ⟨rfl, again⟩

theorem Serves.coded_get_error (serves : disk.Serves path rows)
    (failed : key.encode = .error error) :
    ((codedDatabase path).get key disk).1 = .error (.unencodable error) ∧
      ((codedDatabase path).get key disk).2.Serves path rows := by
  obtain ⟨told, again⟩ := serves.onEncoded_error error (database path).get
  simp only [codedDatabase, failed, told]
  exact ⟨rfl, again⟩

theorem Serves.coded_upsert_error (serves : disk.Serves path rows)
    (failed : key.encode = .error error ∨ key.IsPlain ∧ entry.encode = .error error) :
    ((codedDatabase path).upsert key entry disk).1 = .error (.unencodable error) ∧
      ((codedDatabase path).upsert key entry disk).2.Serves path rows := by
  simp only [codedDatabase, CacheStore.encode_both_error failed]
  exact serves.onEncoded_error error _

theorem Serves.coded_get_plain (serves : disk.Serves path rows) (read : CacheKey) :
    ((codedDatabase path).get (.ofKey read) disk).1 = .ok ((rows.find? read).map .ofEntry) := by
  rw [CacheStore.codedDatabase_get_ofKey, serves.get_result read]
  rfl

/-- What is found depends on the rows alone. -/
theorem Serves.coded_get_same {again : Disk} (serves : disk.Serves path rows)
    (servesAgain : again.Serves path rows) (key : CodedKey) :
    ((codedDatabase path).get key disk).1 = ((codedDatabase path).get key again).1 := by
  by_cases plain : key.IsPlain
  · obtain ⟨read, rfl⟩ := CodedKey.exists_ofKey plain
    rw [serves.coded_get_plain, servesAgain.coded_get_plain]
  · obtain ⟨error, failed⟩ := CodedKey.exists_encode_error plain
    rw [(serves.coded_get_error failed).1, (servesAgain.coded_get_error failed).1]

theorem Serves.coded_upsert_none (serves : disk.Serves path rows) (plain : key.IsPlain)
    (plainContent : entry.content.IsPlain) (none : entry.fetchedAt.isNaN = true) :
    ((codedDatabase path).upsert key entry disk).1 =
        .error (.unavailable ⟨"NOT NULL constraint failed: rule_cache.fetched_at"⟩) ∧
      ((codedDatabase path).upsert key entry disk).2.Serves path rows := by
  obtain ⟨read, rfl⟩ := CodedKey.exists_ofKey plain
  obtain ⟨readEntry, rfl⟩ := CodedEntry.exists_ofEntry plainContent
  obtain ⟨told, again⟩ := serves.upsert_refused read none
  rw [CacheStore.codedDatabase_upsert_ofKey, told]
  exact ⟨rfl, again⟩

theorem Serves.coded_upsert_refused (serves : disk.Serves path rows)
    (refused : ¬ (Use.upsert key entry).IsTaken) :
    ((codedDatabase path).upsert key entry disk).2.Serves path rows := by
  by_cases plain : key.IsPlain ∧ entry.content.IsPlain
  · have none : entry.fetchedAt.isNaN = true := by
      rw [← Bool.not_eq_false]
      exact fun number => refused ⟨plain.1, plain.2, number⟩
    exact (serves.coded_upsert_none plain.1 plain.2 none).2
  · obtain ⟨error, failed⟩ := CacheStore.exists_encode_both_error plain
    exact (serves.coded_upsert_error failed).2

/-- The rows are seen as those of the table in memory. -/
def Codes (rows : CacheTable) (table : CacheTable CodedKey CodedEntry) : Prop :=
  ∀ key, table.find? (.ofKey key) = (rows.find? key).map .ofEntry

theorem Codes.insert (codes : Codes plain table) (key : CacheKey) (entry : CacheEntry) :
    Codes (plain.insert key entry) (table.insert (.ofKey key) (.ofEntry entry)) := by
  intro other
  rw [CacheTable.find?_insert, CacheTable.find?_insert]
  by_cases same : other = key
  · simp [same]
  · have apart : CodedKey.ofKey other ≠ .ofKey key :=
      fun alike => same (CodedKey.ofKey_injective alike)
    rw [if_neg same, if_neg apart, codes]

/-- The database answers as the table in memory. -/
def RefinesCoded (path : Path) (table : CacheTable CodedKey CodedEntry) (disk : Disk) : Prop :=
  ∃ plain, disk.Refines path plain ∧ Codes plain table

theorem Fresh.refinesCoded (fresh : disk.Fresh path) : disk.RefinesCoded path [] :=
  ⟨[], fresh.refines, fun _ => rfl⟩

theorem RefinesCoded.get (refines : disk.RefinesCoded path table) (key : CodedKey) :
    ((codedDatabase path).get key disk).2.RefinesCoded path table := by
  obtain ⟨plain, refines, codes⟩ := refines
  by_cases encodable : key.IsPlain
  · obtain ⟨read, rfl⟩ := CodedKey.exists_ofKey encodable
    rw [CacheStore.codedDatabase_get_ofKey]
    exact ⟨plain, refines.after (.get read), codes⟩
  · obtain ⟨error, failed⟩ := CodedKey.exists_encode_error encodable
    obtain ⟨rows, serves, mirrors⟩ := refines
    exact ⟨plain, ⟨rows, (serves.coded_get_error failed).2, mirrors⟩, codes⟩

theorem RefinesCoded.upsert_refused (refines : disk.RefinesCoded path table)
    (refused : ¬ (Use.upsert key entry).IsTaken) :
    ((codedDatabase path).upsert key entry disk).2.RefinesCoded path table := by
  obtain ⟨plain, ⟨rows, serves, mirrors⟩, codes⟩ := refines
  exact ⟨plain, ⟨rows, serves.coded_upsert_refused refused, mirrors⟩, codes⟩

theorem RefinesCoded.upsert_taken (refines : disk.RefinesCoded path table)
    (taken : (Use.upsert key entry).IsTaken) :
    ((codedDatabase path).upsert key entry disk).1 = .ok () ∧
      ((codedDatabase path).upsert key entry disk).2.RefinesCoded path
        (table.insert key entry) := by
  obtain ⟨plain, ⟨rows, serves, mirrors⟩, codes⟩ := refines
  obtain ⟨keyPlain, contentPlain, number⟩ := taken
  obtain ⟨read, rfl⟩ := CodedKey.exists_ofKey keyPlain
  obtain ⟨readEntry, rfl⟩ := CodedEntry.exists_ofEntry contentPlain
  obtain ⟨done, again⟩ := serves.upsert_number read number
  rw [CacheStore.codedDatabase_upsert_ofKey, done]
  exact ⟨rfl, plain.insert read readEntry, ⟨_, again, mirrors.insert read number⟩,
    codes.insert read readEntry⟩

/-- One use of both keeps it so, where the memory is not given what is refused. -/
theorem RefinesCoded.after (refines : disk.RefinesCoded path table)
    (use : Use CodedKey CodedEntry) :
    (use.after (codedDatabase path) reopened disk).RefinesCoded path
      (if use.IsTaken then use.after memory id table else table) := by
  cases use with
  | get key => exact refines.get key
  | reopen =>
      obtain ⟨plain, refines, codes⟩ := refines
      exact ⟨plain, refines.after .reopen, codes⟩
  | upsert key entry =>
      split
      · rename_i taken
        exact (refines.upsert_taken taken).2
      · rename_i refused
        exact refines.upsert_refused refused

theorem RefinesCoded.afterAll (refines : disk.RefinesCoded path table)
    (uses : List (Use CodedKey CodedEntry)) :
    (afterAll (codedDatabase path) reopened uses disk).RefinesCoded path
      (afterAll memory id (uses.filter (·.IsTaken)) table) := by
  induction uses generalizing disk table with
  | nil => exact refines
  | cons use rest ih =>
      have next := ih (refines.after use)
      by_cases taken : use.IsTaken
      · simpa [CacheStore.afterAll, taken] using next
      · simpa [CacheStore.afterAll, taken] using next

theorem RefinesCoded.get_result (refines : disk.RefinesCoded path table) {key : CodedKey}
    (encodable : key.IsPlain) :
    ∃ found kept, ((codedDatabase path).get key disk).1 = .ok found ∧
      (memory.get key table).1 = .ok kept ∧ found.Rel CodedEntry.Equal kept := by
  obtain ⟨plain, ⟨rows, serves, mirrors⟩, codes⟩ := refines
  obtain ⟨read, rfl⟩ := CodedKey.exists_ofKey encodable
  refine ⟨(rows.find? read).map .ofEntry, _, serves.coded_get_plain read, rfl, ?_⟩
  have equal := mirrors.find?_equal read
  rw [codes]
  generalize rows.find? read = found at equal ⊢
  generalize plain.find? read = kept at equal ⊢
  cases equal with
  | none => exact .none
  | some equal => exact .some (CodedEntry.equal_ofEntry equal)

end Disk

namespace CacheStore

/-- From no file on, a database answers for every key without surrogates as the memory after the
same entries that it takes, and its table has one row for a key at most. It takes an entry if its
key and its text have no surrogates and its time is a number. A time that is no number is an error
of the store. A surrogate is an error of another kind, also in a key that is looked up, where the
memory has an answer. No entry that is refused changes what is found. -/
theorem database_refines_memory {path : Path} {disk : Disk} (fresh : disk.Fresh path)
    (uses : List (Use CodedKey CodedEntry)) :
    let store := codedDatabase path
    let left := afterAll store Disk.reopened uses disk
    (∀ key, key.IsPlain → ∃ found kept, (store.get key left).1 = .ok found ∧
      (memory.get key (taken uses)).1 = .ok kept ∧ found.Rel CodedEntry.Equal kept) ∧
    (∀ key, ¬ key.IsPlain → ∃ error, key.encode = .error error ∧
      (store.get key left).1 = .error (.unencodable error)) ∧
    (∀ place rows, left.files.locate path = .ok (place, some (.database (some rows))) →
      rows.Distinct) ∧
    (∀ key entry, (Use.upsert key entry).IsTaken → (store.upsert key entry left).1 = .ok ()) ∧
    (∀ key entry, key.IsPlain → entry.content.IsPlain → entry.fetchedAt.isNaN = true →
      (store.upsert key entry left).1 =
        .error (.unavailable ⟨"NOT NULL constraint failed: rule_cache.fetched_at"⟩)) ∧
    (∀ key entry, ¬ (key.IsPlain ∧ entry.content.IsPlain) → ∃ error,
      (key.encode = .error error ∨ key.IsPlain ∧ entry.encode = .error error) ∧
      (store.upsert key entry left).1 = .error (.unencodable error)) ∧
    ∀ key entry, ¬ (Use.upsert key entry).IsTaken → ∀ other,
      (store.get other (store.upsert key entry left).2).1 = (store.get other left).1 := by
  intro store left
  have refines : left.RefinesCoded path (taken uses) := fresh.refinesCoded.afterAll uses
  obtain ⟨plain, ⟨rows, serves, mirrors⟩, -⟩ := id refines
  refine ⟨fun key encodable => refines.get_result encodable, fun key marred => ?_,
    fun place held located => ?_, fun key entry taken => (refines.upsert_taken taken).1,
    fun key entry encodable content none => ?_, fun key entry marred => ?_,
    fun key entry refused other => ?_⟩
  · obtain ⟨error, failed⟩ := CodedKey.exists_encode_error marred
    exact ⟨error, failed, (serves.coded_get_error failed).1⟩
  · rw [serves.rows_unique located]
    exact mirrors.distinct
  · exact (serves.coded_upsert_none encodable content none).1
  · obtain ⟨error, failed⟩ := exists_encode_both_error marred
    exact ⟨error, failed, (serves.coded_upsert_error failed).1⟩
  · exact (serves.coded_upsert_refused refused).coded_get_same serves other

namespace Sample

def python : CodedKey := .ofKey { topic := "python" }

/-- A key whose only code point is a surrogate. -/
def surrogate : CodedKey := { topic := [0xDCFF] }

/-- Two entries for one key, the store opened again between them, and two that are refused. -/
def uses : List (Use CodedKey CodedEntry) :=
  [.get python, .upsert python ⟨.ofString "v1", 1⟩, .reopen, .get surrogate,
    .upsert python ⟨.ofString "v2", 2⟩, .upsert python ⟨.ofString "v3", 0 / 0⟩,
    .upsert python ⟨[0xDCFF], 4⟩]

theorem uses_taken : uses.filter (·.IsTaken) =
    [.upsert python ⟨.ofString "v1", 1⟩, .upsert python ⟨.ofString "v2", 2⟩] := by
  have first : (Use.upsert python ⟨.ofString "v1", 1⟩).IsTaken :=
    ⟨CodedKey.ofKey_isPlain _, CodeText.ofString_isPlain _, by rfl⟩
  have second : (Use.upsert python ⟨.ofString "v2", 2⟩).IsTaken :=
    ⟨CodedKey.ofKey_isPlain _, CodeText.ofString_isPlain _, by rfl⟩
  have noTime : ¬ (Use.upsert python ⟨.ofString "v3", 0 / 0⟩).IsTaken :=
    fun taken => absurd taken.2.2 (by decide)
  have noText : ¬ (Use.upsert python ⟨[0xDCFF], 4⟩).IsTaken :=
    fun taken => absurd (taken.2.1 _ List.mem_cons_self) (by decide)
  have asked (key : CodedKey) : ¬ (Use.get key).IsTaken := id
  have reopened : ¬ Use.reopen.IsTaken := id
  simp [uses, first, second, noTime, noText, asked, reopened]

theorem python_refined : disk.Fresh path ∧ ∃ found,
    ((codedDatabase path).get python
      (afterAll (codedDatabase path) Disk.reopened uses disk)).1 = .ok (some found) ∧
    found.content = .ofString "v2" := by
  refine ⟨fresh, ?_⟩
  obtain ⟨found, kept, answered, recalled, equal⟩ :=
    (database_refines_memory fresh uses).1 python (CodedKey.ofKey_isPlain _)
  have held : memory.get python (taken uses) = (.ok (some ⟨.ofString "v2", 2⟩), taken uses) := by
    rw [taken, uses_taken]
    simp [afterAll, Use.after, memory, CacheTable.find?_insert]
  rw [held] at recalled
  cases recalled
  cases equal with
  | @some found kept equal => exact ⟨found, answered, equal.content⟩

/-- An entry with a surrogate in its key is kept in memory. The database fails to take it and to
look it up, with an error that is none of a store. -/
theorem surrogate_refused :
    let entry : CodedEntry := ⟨.ofString "v1", 1⟩
    let error : EncodeError := ⟨0, [0xDCFF]⟩
    let left := ((codedDatabase path).upsert surrogate entry disk).2
    disk.Fresh path ∧
      (memory.get surrogate (memory.upsert surrogate entry []).2).1 = .ok (some entry) ∧
      ((codedDatabase path).upsert surrogate entry disk).1 = .error (.unencodable error) ∧
      ((codedDatabase path).get surrogate left).1 = .error (.unencodable error) := by
  intro entry error left
  have failed : surrogate.encode = .error error := by rfl
  obtain ⟨told, serves⟩ := fresh.serves.coded_upsert_error (.inl failed)
  exact ⟨fresh, rfl, told, (serves.coded_get_error failed).1⟩

end Sample

end CacheStore

end Rulebook
