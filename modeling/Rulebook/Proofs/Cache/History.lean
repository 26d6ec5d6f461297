import Rulebook.Proofs.Cache.Fetch

/-!
The cache over a run of fetches. Between two fetches the clock may move and the network may change
its answers in any way, and in each of them the store may fail at reading, at writing or at both.
Whatever happens, the cache holds for each key what was last downloaded and saved under it
(`lastSaved`), which is what a fetch answers from.
-/

namespace Rulebook.Remote

open Running

/-- A fetch of a run: what is asked for, what the network and the clock tell by then, and the
faults of the store that it meets. -/
structure Call where
  path : String
  allowNetwork : Bool
  around : Surroundings
  readFault : Option StoreError := none
  writeFault : Option StoreError := none

/-- A fetch that has been made, and how it ended. -/
structure Event where
  call : Call
  result : Except Download.Failure Fetched

namespace Call

def key (call : Call) : CacheKey := CacheKey.ofPath call.path

/-- The memory with the faults that the fetch meets. -/
def store (call : Call) : CacheStore CacheTable :=
  CacheStore.memory.interrupted call.readFault call.writeFault

/-- The same fetch with a store that works. -/
def undisturbed (call : Call) : Call := { call with readFault := none, writeFault := none }

/-- Makes the fetch with the entries of a table. -/
def make (remote : Remote) (call : Call) (table : CacheTable) :
    Except Download.Failure Fetched × CacheTable :=
  let (result, after) :=
    on (remote.fetch call.store call.around call.allowNetwork call.path) { state := table }
  (result, after.state)

/-- The entry that the fetch finds in a table. -/
def seen (call : Call) (table : CacheTable) : Option CacheEntry :=
  if call.readFault.isSome then none else table.find? call.key

/-- How the fetch ends, told from what it finds in a table. -/
def delivery (remote : Remote) (call : Call) (table : CacheTable) : Delivery :=
  remote.deliver call.around call.allowNetwork call.path (call.seen table)

/-- The entry that the fetch leaves in a table, if it leaves one. -/
def left (remote : Remote) (call : Call) (table : CacheTable) : Option CacheEntry :=
  if call.writeFault.isSome then none else (call.delivery remote table).saved

end Call

/-- The key and the entry that a fetch has saved: a download, if the store took it. -/
def Event.saved? (event : Event) : Option (CacheKey × CacheEntry) :=
  match event.call.writeFault, event.result with
  | none, .ok ⟨content, .network⟩ => some (event.call.key, ⟨content, event.call.around.now⟩)
  | _, _ => none

/-- The entry most recently saved under a key. -/
def lastSaved (events : List Event) (key : CacheKey) : Option CacheEntry :=
  (events.filterMap Event.saved?).reverse.lookup key

/-- Makes the fetches one after the other: what has happened, and the table that is left. -/
def replay (remote : Remote) (table : CacheTable) : List Call → List Event × CacheTable
  | [] => ([], table)
  | call :: rest =>
      let (result, after) := call.make remote table
      let (events, final) := replay remote after rest
      (⟨call, result⟩ :: events, final)

/-- The table holds what the events have saved last, under each key once. -/
structure Reflects (table : CacheTable) (events : List Event) : Prop where
  distinct : table.Distinct
  find? : ∀ key, table.find? key = lastSaved events key

variable {remote : Remote} {table : CacheTable} {events : List Event}

theorem make_eq (call : Call) (table : CacheTable) :
    call.make remote table = ((call.delivery remote table).result,
      CacheStore.memory.kept call.key (call.left remote table) table) := by
  obtain ⟨log, fetched⟩ := remote.fetch_on call.store call.around call.allowNetwork call.path
    { state := table }
  simp only [Call.store, CacheStore.memory_found, CacheStore.memory_kept] at fetched
  simp only [Call.make, Call.store, fetched, Call.delivery, Call.left, Call.seen, Call.key]

variable (remote) in
theorem saved?_make (call : Call) (table : CacheTable) :
    Event.saved? ⟨call, (call.make remote table).1⟩ =
      (call.left remote table).map fun entry => (call.key, entry) := by
  rw [make_eq]
  cases fault : call.writeFault with
  | some error => simp [Event.saved?, Call.left, fault]
  | none =>
      simp only [Event.saved?, Call.left, fault, Option.isSome_none, Bool.false_eq_true, if_false]
      rcases remote.deliver_cases call.around call.allowNetwork call.path (call.seen table) with
        ⟨entry, origin, -, cached, ended, kept⟩ | ⟨content, ended, kept⟩ |
        ⟨error, -, ended, -, kept⟩ | ⟨message, address, -, ended, kept⟩
      · cases origin <;> simp [Call.delivery, ended, kept] at cached ⊢
      · simp [Call.delivery, ended, kept]
      · simp [Call.delivery, ended, kept]
      · simp [Call.delivery, ended, kept]

/-- A fetch that has saved nothing changes nothing of what was saved last, and one that has saved
an entry changes it under its own key alone. -/
theorem lastSaved_append (events : List Event) (event : Event) (key : CacheKey) :
    lastSaved (events ++ [event]) key = match event.saved? with
      | none => lastSaved events key
      | some (saved, entry) => if key = saved then some entry else lastSaved events key := by
  cases saving : event.saved? with
  | none => simp [lastSaved, saving]
  | some held =>
      obtain ⟨saved, entry⟩ := held
      by_cases same : key = saved
      · simp [lastSaved, saving, same]
      · have passed : (key == saved) = false := beq_eq_false_iff_ne.mpr same
        simp [lastSaved, saving, List.lookup_cons, passed, same]

theorem saved_of_lastSaved {key : CacheKey} {entry : CacheEntry}
    (held : lastSaved events key = some entry) :
    ∃ event ∈ events, event.saved? = some (key, entry) := by
  obtain ⟨before, after, split, -⟩ := List.lookup_eq_some_iff.mp held
  refine List.mem_filterMap.mp ?_
  rw [← List.mem_reverse, split]
  exact List.mem_append_right before List.mem_cons_self

theorem Event.saved?_eq_some_iff {event : Event} {key : CacheKey} {entry : CacheEntry} :
    event.saved? = some (key, entry) ↔ event.call.writeFault = none ∧ event.call.key = key ∧
      event.result = .ok ⟨entry.content, .network⟩ ∧ entry.fetchedAt = event.call.around.now := by
  constructor
  · intro saving
    unfold saved? at saving
    split at saving
    · rename_i content working ended
      simp only [Option.some.injEq, Prod.mk.injEq] at saving
      obtain ⟨sameKey, rfl⟩ := saving
      exact ⟨working, sameKey, ended, rfl⟩
    · contradiction
  · rintro ⟨working, sameKey, ended, time⟩
    simp only [saved?, working, ended, sameKey, ← time]

variable (remote) in
theorem make_reflects (reflects : Reflects table events) (call : Call) :
    Reflects (call.make remote table).2 (events ++ [⟨call, (call.make remote table).1⟩]) := by
  have saving := saved?_make remote call table
  rw [make_eq] at saving ⊢
  cases leaving : call.left remote table with
  | none =>
      refine ⟨reflects.distinct, fun key => ?_⟩
      simp only [lastSaved_append, saving, leaving, Option.map_none]
      exact reflects.find? key
  | some entry =>
      refine ⟨CacheTable.insert_distinct reflects.distinct _ _, fun key => ?_⟩
      simp only [lastSaved_append, saving, leaving, Option.map_some]
      rw [← reflects.find? key]
      exact table.find?_insert call.key key entry

variable (remote) in
theorem replay_reflects (calls : List Call) (reflects : Reflects table events) :
    Reflects (remote.replay table calls).2 (events ++ (remote.replay table calls).1) := by
  induction calls generalizing table events with
  | nil => simpa [replay] using reflects
  | cons call rest ih =>
      have next := ih (make_reflects remote reflects call)
      simpa only [replay, List.append_assoc, List.singleton_append] using next

theorem Reflects.mem_iff (reflects : Reflects table events) (key : CacheKey) (entry : CacheEntry) :
    (key, entry) ∈ table ↔ lastSaved events key = some entry := by
  rw [← reflects.find? key]
  exact (CacheTable.find?_eq_some_iff reflects.distinct).symm

theorem seen_eq_some {call : Call} {entry : CacheEntry} (seen : call.seen table = some entry) :
    table.find? call.key = some entry := by
  cases fault : call.readFault with
  | some error => simp [Call.seen, fault] at seen
  | none => simpa [Call.seen, fault] using seen

/-- A document that is not downloaded is the one in the table. -/
theorem make_cached {call : Call} {fetched : Fetched}
    (ended : (call.make remote table).1 = .ok fetched) (cached : fetched.origin ≠ .network) :
    ∃ entry, table.find? call.key = some entry ∧ fetched.content = entry.content := by
  rw [make_eq] at ended
  rcases remote.deliver_cases call.around call.allowNetwork call.path (call.seen table) with
    ⟨entry, origin, seen, -, result, -⟩ | ⟨content, result, -⟩ | ⟨error, -, result, -, -⟩ |
    ⟨message, address, -, result, -⟩ <;> cases result.symm.trans ended
  · exact ⟨entry, seen_eq_some seen, rfl⟩
  · exact absurd rfl cached

theorem make_unchanged {call : Call}
    (ended : ∀ content, (call.make remote table).1 ≠ .ok ⟨content, .network⟩) :
    (call.make remote table).2 = table := by
  rw [make_eq] at ended ⊢
  have nothing : (call.delivery remote table).saved = none := by
    rcases remote.deliver_cases call.around call.allowNetwork call.path (call.seen table) with
      ⟨_, _, -, -, -, saved⟩ | ⟨content, result, -⟩ | ⟨_, -, -, -, saved⟩ | ⟨_, _, -, -, saved⟩
    · exact saved
    · exact absurd result (ended content)
    · exact saved
    · exact saved
  simp [Call.left, nothing, CacheStore.kept]

theorem make_find?_other {call : Call} {key : CacheKey} (different : key ≠ call.key) :
    (call.make remote table).2.find? key = table.find? key := by
  rw [make_eq]
  cases call.left remote table with
  | none => rfl
  | some entry => exact (table.find?_insert call.key key entry).trans (if_neg different)

theorem make_failed {call : Call} {failure : Download.Failure}
    (ended : (call.make remote table).1 = .error failure) :
    (∃ error, failure = .failed error ∧ error.url = urlFor remote.baseUrl call.path ∧
      call.seen table = none) ∨
    ∃ message address, failure = .crashed message ∧
      call.around.network address = .crash message := by
  rw [make_eq] at ended
  rcases remote.deliver_cases call.around call.allowNetwork call.path (call.seen table) with
    ⟨_, _, -, -, result, -⟩ | ⟨_, result, -⟩ | ⟨error, seen, result, named, -⟩ |
    ⟨message, address, crashed, result, -⟩ <;> cases result.symm.trans ended
  · exact .inl ⟨error, rfl, named, seen⟩
  · exact .inr ⟨message, address, rfl, crashed⟩

/-- Faults of the store decide no result, but that a document that cannot be read is not there. -/
theorem make_result_undisturbed (call : Call) (table : CacheTable) :
    (call.make remote table).1 =
      (call.undisturbed.make remote (if call.readFault.isSome then [] else table)).1 := by
  simp only [make_eq, Call.delivery, Call.undisturbed, Call.seen, Call.key]
  cases call.readFault <;> rfl

/-- The cache over any run of fetches from an empty table, and over one more fetch of any kind. The
table holds what was last downloaded and saved, and nothing else, before and after the fetch. A
document from the cache is the one last saved under its own key. Only a download changes the table,
and only under its own key. A fetch ends without a document only when its download fails and
nothing was saved under its key, or the store could not be read, or else the network crashes; the
faults of the store never decide how it ends, other than by hiding an entry. -/
theorem cache_follows_downloads (remote : Remote) (calls : List Call) (call : Call) :
    let past := (remote.replay [] calls).1
    let table := (remote.replay [] calls).2
    let result := (call.make remote table).1
    let after := (call.make remote table).2
    (table.Distinct ∧ ∀ key entry, (key, entry) ∈ table ↔ lastSaved past key = some entry) ∧
    (after.Distinct ∧ ∀ key entry, (key, entry) ∈ after ↔
      lastSaved (past ++ [⟨call, result⟩]) key = some entry) ∧
    (∀ fetched, result = .ok fetched → fetched.origin ≠ .network →
      ∃ entry, lastSaved past call.key = some entry ∧ fetched.content = entry.content) ∧
    ((∀ content, result ≠ .ok ⟨content, .network⟩) → after = table) ∧
    (∀ key, key ≠ call.key → ∀ entry, (key, entry) ∈ after ↔ (key, entry) ∈ table) ∧
    (∀ failure, result = .error failure →
      (∃ error, failure = .failed error ∧ error.url = urlFor remote.baseUrl call.path ∧
        (call.readFault = none → lastSaved past call.key = none)) ∨
      ∃ message address, failure = .crashed message ∧
        call.around.network address = .crash message) ∧
    result = (call.undisturbed.make remote (if call.readFault.isSome then [] else table)).1 := by
  intro past table result after
  have empty : Reflects [] [] := ⟨List.nodup_nil, fun _ => rfl⟩
  have reflects : Reflects table past := replay_reflects remote calls empty
  have next : Reflects after (past ++ [⟨call, result⟩]) := make_reflects remote reflects call
  refine ⟨⟨reflects.distinct, reflects.mem_iff⟩, ⟨next.distinct, next.mem_iff⟩, ?_,
    make_unchanged, ?_, ?_, make_result_undisturbed call table⟩
  · intro fetched ended cached
    rw [← reflects.find?]
    exact make_cached ended cached
  · intro key different entry
    rw [← CacheTable.find?_eq_some_iff next.distinct, make_find?_other different,
      CacheTable.find?_eq_some_iff reflects.distinct]
  · intro failure ended
    refine (make_failed ended).imp_left fun ⟨error, failed, named, unseen⟩ =>
      ⟨error, failed, named, fun working => ?_⟩
    rw [← reflects.find?]
    simpa [Call.seen, working] using unseen

end Rulebook.Remote
