import Mathlib.Data.List.Nodup
import Mathlib.Logic.Function.Basic
import Rulebook.Cache.Store

namespace Rulebook

section Lookup

variable {α β : Type} [BEq α] [LawfulBEq α] {key other : α}

theorem lookup_filter_other (table : List (α × β)) (different : other ≠ key) :
    (table.filter (·.1 != key)).lookup other = table.lookup other := by
  induction table with
  | nil => rfl
  | cons held rest ih =>
      obtain ⟨heldKey, value⟩ := held
      by_cases removed : heldKey = key
      · have passed : (other == key) = false := beq_eq_false_iff_ne.mpr different
        simp [List.lookup_cons, removed, passed, ih]
      · simp [List.lookup_cons, removed, ih]

theorem lookup_replaced [DecidableEq α] (table : List (α × β)) (key other : α) (value : β) :
    ((key, value) :: table.filter (·.1 != key)).lookup other =
      if other = key then some value else table.lookup other := by
  by_cases same : other = key
  · simp [same]
  · have passed : (other == key) = false := beq_eq_false_iff_ne.mpr same
    rw [if_neg same, ← lookup_filter_other table same]
    simp only [List.lookup_cons, passed]

end Lookup

namespace CacheTable

variable {table : CacheTable} {key other : CacheKey} {entry : CacheEntry}

/-- The keys are distinct. -/
def Distinct (table : CacheTable) : Prop := (table.map Prod.fst).Nodup

theorem find?_eq_some_iff (distinct : table.Distinct) :
    table.find? key = some entry ↔ (key, entry) ∈ table := by
  induction table with
  | nil => simp [find?]
  | cons held rest ih =>
      obtain ⟨heldKey, heldEntry⟩ := held
      obtain ⟨fresh, restDistinct⟩ := List.nodup_cons.mp distinct
      have shadowed : (heldKey, entry) ∉ rest := fun member =>
        fresh (List.mem_map.mpr ⟨_, member, rfl⟩)
      by_cases same : key = heldKey
      · subst same
        simp [find?, shadowed, eq_comm]
      · have passed : (key == heldKey) = false := beq_eq_false_iff_ne.mpr same
        simp only [find?, List.lookup_cons, passed, List.mem_cons, Prod.mk.injEq, same, false_and,
          false_or]
        exact ih restDistinct

theorem find?_insert {κ ν : Type} [DecidableEq κ] (table : CacheTable κ ν) (key other : κ)
    (entry : ν) : (table.insert key entry).find? other =
      if other = key then some entry else table.find? other :=
  lookup_replaced table key other entry

theorem insert_distinct (distinct : table.Distinct) (key : CacheKey) (entry : CacheEntry) :
    (table.insert key entry).Distinct := by
  refine List.nodup_cons.mpr ⟨by simp, ?_⟩
  exact distinct.sublist (List.filter_sublist.map Prod.fst)

end CacheTable

namespace CacheStore

variable {σ : Type} {store : CacheStore σ}

/-- The entry that a store answers with, where one out of order has none; and the state left. -/
def found (store : CacheStore σ) (key : CacheKey) (state : σ) : Option CacheEntry × σ :=
  match store.get key state with
  | (.ok entry, after) => (entry, after)
  | (.error _, after) => (none, after)

/-- The state after an entry has been given to a store, if there is one to be given. -/
def kept (store : CacheStore σ) (key : CacheKey) (entry : Option CacheEntry) (state : σ) : σ :=
  match entry with
  | none => state
  | some entry => (store.upsert key entry state).2

/-- The store, but for an operation that is given a fault: it fails and leaves the state alone. -/
def interrupted (readFault writeFault : Option StoreError) (store : CacheStore σ) :
    CacheStore σ where
  get key state := match readFault with
    | some error => (.error error, state)
    | none => store.get key state
  upsert key entry state := match writeFault with
    | some error => (.error error, state)
    | none => store.upsert key entry state

/-- The store acts on its state as on the map that `entries` sees in it. -/
structure Works (store : CacheStore σ) (entries : σ → CacheKey → Option CacheEntry) : Prop where
  get_result : ∀ key state, (store.get key state).1 = .ok (entries state key)
  get_entries : ∀ key state, entries (store.get key state).2 = entries state
  upsert_result : ∀ key entry state, (store.upsert key entry state).1 = .ok ()
  upsert_entries : ∀ key entry state, entries (store.upsert key entry state).2 =
    Function.update (entries state) key (some entry)

/-- The store never does anything. -/
structure Fails (store : CacheStore σ) : Prop where
  get_fails : ∀ key state, ∃ error, store.get key state = (.error error, state)
  upsert_fails : ∀ key entry state, ∃ error, store.upsert key entry state = (.error error, state)

/-- What the store answers for a key is decided by the entries that are seen in its state, and an
entry given to it is seen under no other key. -/
structure KeepsApart (store : CacheStore σ) (entries : σ → CacheKey → Option CacheEntry) :
    Prop where
  found_result : ∀ key state, (store.found key state).1 = entries state key
  found_entries : ∀ key state, entries (store.found key state).2 = entries state
  kept_other : ∀ key entry state other, other ≠ key →
    entries (store.kept key entry state) other = entries state other

theorem Works.keepsApart {entries : σ → CacheKey → Option CacheEntry}
    (works : store.Works entries) : store.KeepsApart entries where
  found_result key state := by
    have result := works.get_result key state
    cases answered : store.get key state with
    | mk answer after =>
        have held : answer = .ok (entries state key) := by simpa [answered] using result
        simp [found, answered, held]
  found_entries key state := by
    rw [← works.get_entries key state]
    cases answered : store.get key state with
    | mk answer after => cases answer <;> simp [found, answered]
  kept_other key entry state other different := by
    cases entry with
    | none => rfl
    | some entry =>
        have written := congrFun (works.upsert_entries key entry state) other
        rwa [Function.update_of_ne different] at written

/-- In a store that never does anything no entries are seen. -/
theorem Fails.keepsApart (fails : store.Fails) : store.KeepsApart fun _ _ => none where
  found_result key state := by
    obtain ⟨error, failed⟩ := fails.get_fails key state
    simp [found, failed]
  found_entries _ _ := rfl
  kept_other _ _ _ _ _ := rfl

/-- The store changes nothing of what is seen in its state by other means. -/
structure Spares {α : Type} (store : CacheStore σ) (view : σ → α) : Prop where
  found_view : ∀ key state, view (store.found key state).2 = view state
  kept_view : ∀ key entry state, view (store.kept key entry state) = view state

section Within

variable {τ : Type} {part : τ → σ} {replace : σ → τ → τ}

theorem found_within (key : CacheKey) (whole : τ) :
    (store.within part replace).found key whole = ((store.found key (part whole)).1,
      replace (store.found key (part whole)).2 whole) := by
  cases answered : store.get key (part whole) with
  | mk answer after => cases answer <;> simp [found, within, answered]

theorem KeepsApart.within {entries : σ → CacheKey → Option CacheEntry}
    (apart : store.KeepsApart entries)
    (replaced : ∀ inner whole, part (replace inner whole) = inner) :
    (store.within part replace).KeepsApart fun whole => entries (part whole) where
  found_result key whole := by rw [found_within, apart.found_result]
  found_entries key whole := by rw [found_within, replaced, apart.found_entries]
  kept_other key entry whole other different := by
    cases entry with
    | none => rfl
    | some entry =>
        have kept := apart.kept_other key (some entry) (part whole) other different
        simpa only [CacheStore.kept, CacheStore.within, replaced] using kept

theorem Works.within {entries : σ → CacheKey → Option CacheEntry} (works : store.Works entries)
    (replaced : ∀ inner whole, part (replace inner whole) = inner) :
    (store.within part replace).Works fun whole => entries (part whole) where
  get_result key whole := works.get_result key (part whole)
  get_entries key whole := by simp only [CacheStore.within, replaced, works.get_entries]
  upsert_result key entry whole := works.upsert_result key entry (part whole)
  upsert_entries key entry whole := by simp only [CacheStore.within, replaced, works.upsert_entries]

theorem Fails.within (fails : store.Fails) (kept : ∀ whole, replace (part whole) whole = whole) :
    (store.within part replace).Fails where
  get_fails key whole := by
    obtain ⟨error, failed⟩ := fails.get_fails key (part whole)
    exact ⟨error, by simp only [CacheStore.within, failed, kept]⟩
  upsert_fails key entry whole := by
    obtain ⟨error, failed⟩ := fails.upsert_fails key entry (part whole)
    exact ⟨error, by simp only [CacheStore.within, failed, kept]⟩

theorem within_spares {α : Type} {view : τ → α}
    (untouched : ∀ inner whole, view (replace inner whole) = view whole) :
    (store.within part replace).Spares view where
  found_view key whole := by rw [found_within, untouched]
  kept_view key entry whole := by
    cases entry with
    | none => rfl
    | some entry => exact untouched _ _

end Within

/-- A text that is given to the store at a time is found again under its key. -/
def Records (store : CacheStore σ) (entries : σ → CacheKey → Option CacheEntry)
    (world : σ → Prop) (time : Float) : Prop :=
  ∀ key content state, world state →
    (entries (store.kept key (some ⟨content, time⟩) state) key).map CacheEntry.content =
      some content

/-- A text that is given to the store at a time is found again under its key, or else the store
refuses it, and what was found under the key stays. -/
def RecordsOrRefuses (store : CacheStore σ) (entries : σ → CacheKey → Option CacheEntry)
    (world : σ → Prop) (time : Float) : Prop :=
  ∀ key content state, world state →
    (entries (store.kept key (some ⟨content, time⟩) state) key).map CacheEntry.content =
        some content ∨
      entries (store.kept key (some ⟨content, time⟩) state) key = entries state key

section Recording

variable {entries : σ → CacheKey → Option CacheEntry} {world : σ → Prop} {time : Float}

theorem Records.orRefuses (records : store.Records entries world time) :
    store.RecordsOrRefuses entries world time :=
  fun key content state inside => .inl (records key content state inside)

theorem Works.records (works : store.Works entries) : store.Records entries world time := by
  intro key content state _
  have written := works.upsert_entries key ⟨content, time⟩ state
  simp only [kept, written, Function.update_self, Option.map_some]

theorem Fails.refuses (fails : store.Fails) : store.RecordsOrRefuses entries world time := by
  intro key content state _
  obtain ⟨error, failed⟩ := fails.upsert_fails key ⟨content, time⟩ state
  simp only [kept, failed, or_true]

end Recording

theorem memory_works : memory.Works CacheTable.find? where
  get_result _ _ := rfl
  get_entries _ _ := rfl
  upsert_result _ _ _ := rfl
  upsert_entries key entry table := by
    funext other
    simp only [memory, CacheTable.find?_insert, Function.update_apply]

theorem memory_found (readFault writeFault : Option StoreError) (key : CacheKey)
    (table : CacheTable) :
    (memory.interrupted readFault writeFault).found key table =
      (if readFault.isSome then none else table.find? key, table) := by
  cases readFault <;> rfl

theorem memory_kept (readFault writeFault : Option StoreError) (key : CacheKey)
    (entry : Option CacheEntry) (table : CacheTable) :
    (memory.interrupted readFault writeFault).kept key entry table =
      memory.kept key (if writeFault.isSome then none else entry) table := by
  cases writeFault <;> cases entry <;> rfl

theorem failing_fails (detail : String) : (failing detail : CacheStore σ).Fails where
  get_fails _ _ := ⟨_, rfl⟩
  upsert_fails _ _ _ := ⟨_, rfl⟩

end CacheStore

end Rulebook
