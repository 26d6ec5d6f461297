import Rulebook.Proofs.Cache.Attempts
import Rulebook.Proofs.Cache.History
import Rulebook.Proofs.Decimal.Exact

/-!
How often a document is downloaded. The cache compares the time of a fetch with that of the one
entry it holds, which is the entry of the latest download. As the clock never goes back, no earlier
download can be fresh if that one is not: a document is asked for only if none is.
-/

namespace Rulebook.Remote

open Running Decimal

/-- The time of the fetch as an exact number of seconds. -/
def Call.time (call : Call) : ℚ := worth call.around.now

/-- The clock does not go back between the fetches, and whether what the earlier one downloads is
still fresh comes out as on the exact numbers. -/
structure Timed (remote : Remote) (earlier later : Call) : Prop where
  ordered : earlier.time ≤ later.time
  age_le_iff : later.around.now - earlier.around.now ≤ remote.freshFor ↔
    later.time - earlier.time ≤ worth remote.freshFor

/-- As long as what the earlier fetch has downloaded is fresh, the later one gets it from the
cache. -/
def Recalls (remote : Remote) (earlier later : Event) : Prop :=
  ∀ content, earlier.result = .ok ⟨content, .network⟩ → earlier.call.key = later.call.key →
    later.call.time - earlier.call.time ≤ worth remote.freshFor →
    later.result = .ok ⟨content, .cache⟩

def Event.isDownload (event : Event) : Bool :=
  match event.result with
  | .ok fetched => fetched.origin = .network
  | .error _ => false

variable {remote : Remote} {table : CacheTable} {events : List Event} {calls : List Call}
  {call : Call} {event : Event} {key : CacheKey} {saved : CacheEntry}

theorem timed_of_steps {step : Int} (lower : -1074 ≤ step) (upper : step < 972)
    (limit : remote.freshFor.isFinite = true)
    (counted : ∀ call ∈ calls, IsSteps step call.around.now)
    (ordered : calls.Pairwise fun earlier later => earlier.around.now ≤ later.around.now) :
    calls.Pairwise (Timed remote) := by
  refine ordered.imp_of_mem fun {earlier later} first second inOrder => ⟨?_, ?_⟩
  · obtain ⟨_, _, before⟩ := counted earlier first
    obtain ⟨_, _, after⟩ := counted later second
    exact (le_iff_worth_le before.finite after.finite).mp inOrder
  · exact sub_le_iff lower upper (counted later second) (counted earlier first) limit

theorem Event.isDownload_iff : event.isDownload = true ↔
    ∃ content, event.result = .ok ⟨content, .network⟩ := by
  unfold isDownload
  cases event.result with
  | error failure => simp
  | ok fetched =>
      obtain ⟨content, origin⟩ := fetched
      simp

/-- Of the entries that are saved under a key, the last one is held: for any of them, it is that
one or one that is saved after it. -/
theorem exists_last {R : Event → Event → Prop} (ordered : events.Pairwise R)
    (member : event ∈ events) (saving : event.saved? = some (key, saved)) :
    ∃ last ∈ events, ∃ entry, last.saved? = some (key, entry) ∧
      lastSaved events key = some entry ∧ (last = event ∨ R event last) := by
  induction events using List.reverseRecOn with
  | nil => cases member
  | append_singleton rest new ih =>
      obtain ⟨earlier, -, across⟩ := List.pairwise_append.mp ordered
      have step := lastSaved_append rest new key
      by_cases again : ∃ entry, new.saved? = some (key, entry)
      · obtain ⟨entry, saved⟩ := again
        rw [saved] at step
        refine ⟨new, List.mem_append_right rest (List.mem_singleton_self new), entry, saved,
          step.trans (if_pos rfl), ?_⟩
        rcases List.mem_append.mp member with before | same
        · exact .inr (across event before new (List.mem_singleton_self new))
        · exact .inl (List.mem_singleton.mp same).symm
      · have before : event ∈ rest := (List.mem_append.mp member).resolve_right fun same =>
          again ⟨saved, List.mem_singleton.mp same ▸ saving⟩
        obtain ⟨last, inRest, entry, lastSaving, held, order⟩ := ih earlier before
        refine ⟨last, List.mem_append_left [new] inRest, entry, lastSaving, ?_, order⟩
        rw [step, ← held]
        cases newSaved : new.saved? with
        | none => rfl
        | some other =>
            obtain ⟨otherKey, otherEntry⟩ := other
            refine if_neg fun same => again ⟨otherEntry, ?_⟩
            rw [newSaved, same]

section Working

variable (working : call.undisturbed = call)

include working

theorem readFault_of_working : call.readFault = none := congrArg Call.readFault working.symm

theorem writeFault_of_working : call.writeFault = none := congrArg Call.writeFault working.symm

theorem seen_of_working (table : CacheTable) : call.seen table = table.find? call.key := by
  rw [Call.seen, readFault_of_working working]
  rfl

theorem make_fresh (held : table.find? call.key = some saved)
    (fresh : saved.age call.around.now ≤ remote.freshFor) :
    (call.make remote table).1 = .ok ⟨saved.content, .cache⟩ := by
  have kept : (some saved).filter (fun entry => entry.age call.around.now ≤ remote.freshFor) =
      some saved := by
    rw [Option.filter_some, if_pos (decide_eq_true fresh)]
  rw [make_eq, Call.delivery, seen_of_working working, held, deliver, kept]

end Working

theorem saved?_of_working (working : event.call.undisturbed = event.call) {content : String}
    (ended : event.result = .ok ⟨content, .network⟩) :
    event.saved? = some (event.call.key, ⟨content, event.call.around.now⟩) :=
  Event.saved?_eq_some_iff.mpr ⟨writeFault_of_working working, rfl, ended, rfl⟩

section Past

variable (reflects : Reflects table events)
  (works : ∀ event ∈ events, event.call.undisturbed = event.call)
  (timed : events.Pairwise fun earlier later => Timed remote earlier.call later.call)
  (next : ∀ event ∈ events, Timed remote event.call call)

include reflects works timed next

/-- A fetch after all that has happened gets from the cache what is fresh. The entry it finds is
that of the very download, since a later one would have been made while this one was fresh. -/
theorem make_recalls (recalls : events.Pairwise (Recalls remote))
    (working : call.undisturbed = call) :
    ∀ event ∈ events, Recalls remote event ⟨call, (call.make remote table).1⟩ := by
  intro event member content ended sameKey within
  change event.call.key = call.key at sameKey
  change call.time - event.call.time ≤ worth remote.freshFor at within
  have saving := saved?_of_working (works event member) ended
  rw [sameKey] at saving
  obtain ⟨last, inEvents, entry, lastSaving, held, order⟩ :=
    exists_last (timed.and recalls) member saving
  have same : last = event := by
    refine order.resolve_right ?_
    rintro ⟨-, recalled⟩
    obtain ⟨-, lastKey, downloaded, -⟩ := Event.saved?_eq_some_iff.mp lastSaving
    have before := (next last inEvents).ordered
    have answered := recalled content ended (sameKey.trans lastKey.symm)
      ((sub_le_sub_right before event.call.time).trans within)
    cases answered.symm.trans downloaded
  subst same
  obtain rfl : entry = ⟨content, last.call.around.now⟩ := by
    have entries := lastSaving.symm.trans saving
    simpa using entries
  refine make_fresh working ((reflects.find? call.key).trans held) ?_
  exact ((next last member).age_le_iff).mpr within

/-- The entry that is held for a document is fresh if and only if any download of it is. -/
theorem fresh_iff :
    ((table.find? call.key).any fun entry => entry.age call.around.now ≤ remote.freshFor) =
      events.any fun event => event.isDownload && event.call.key == call.key &&
        call.time - event.call.time ≤ worth remote.freshFor := by
  rw [Bool.eq_iff_iff, Option.any_eq_true, List.any_eq_true]
  constructor
  · rintro ⟨entry, held, fresh⟩
    obtain ⟨event, member, saving⟩ := saved_of_lastSaved ((reflects.find? _).symm.trans held)
    obtain ⟨-, sameKey, ended, time⟩ := Event.saved?_eq_some_iff.mp saving
    have young : call.around.now - event.call.around.now ≤ remote.freshFor :=
      time ▸ of_decide_eq_true fresh
    refine ⟨event, member, ?_⟩
    rw [Event.isDownload_iff.mpr ⟨entry.content, ended⟩, beq_iff_eq.mpr sameKey]
    exact decide_eq_true ((next event member).age_le_iff.mp young)
  · rintro ⟨event, member, near⟩
    simp only [Bool.and_eq_true, beq_iff_eq, decide_eq_true_eq] at near
    obtain ⟨⟨downloaded, sameKey⟩, within⟩ := near
    obtain ⟨content, ended⟩ := Event.isDownload_iff.mp downloaded
    have saving := saved?_of_working (works event member) ended
    rw [sameKey] at saving
    obtain ⟨last, inEvents, entry, lastSaving, held, order⟩ := exists_last timed member saving
    obtain ⟨-, -, -, time⟩ := Event.saved?_eq_some_iff.mp lastSaving
    have later : event.call.time ≤ last.call.time := by
      rcases order with same | after
      · rw [same]
      · exact after.ordered
    have young := (next last inEvents).age_le_iff.mpr
      ((sub_le_sub_left later call.time).trans within)
    refine ⟨entry, (reflects.find? call.key).trans held, decide_eq_true ?_⟩
    rw [CacheEntry.age, time]
    exact young

theorem fetch_asks (working : call.undisturbed = call) :
    let start : Run CacheTable := { state := table }
    let left := on (remote.fetch call.store call.around call.allowNetwork call.path) start
    Attempts remote call.around.network start left.2
      (if call.allowNetwork && !events.any fun event => event.isDownload &&
          event.call.key == call.key && call.time - event.call.time ≤ worth remote.freshFor
        then [urlFor remote.baseUrl call.path] else []) := by
  intro start left
  have attempts := remote.fetch_attempts call.store call.around call.allowNetwork call.path start
  have found : (call.store.found (CacheKey.ofPath call.path) start.state).1 =
      table.find? call.key := by
    rw [← seen_of_working working, Call.store, CacheStore.memory_found]
    rfl
  rwa [attempted_eq, found, fresh_iff reflects works timed next] at attempts

end Past

theorem replay_recalls (reflects : Reflects table events)
    (works : ∀ call ∈ events.map Event.call ++ calls, call.undisturbed = call)
    (timed : (events.map Event.call ++ calls).Pairwise (Timed remote))
    (recalls : events.Pairwise (Recalls remote)) :
    (events ++ (remote.replay table calls).1).Pairwise (Recalls remote) := by
  induction calls generalizing table events with
  | nil => simpa only [replay, List.append_nil] using recalls
  | cons call rest ih =>
      let made : Event := ⟨call, (call.make remote table).1⟩
      have following : (events ++ [made]).map Event.call ++ rest =
          events.map Event.call ++ call :: rest := by
        simp only [List.map_append, List.map_singleton, List.append_assoc, List.singleton_append,
          made]
      obtain ⟨past, -, across⟩ := List.pairwise_append.mp timed
      have recalled := make_recalls reflects
        (fun event member => works event.call
          (List.mem_append_left _ (List.mem_map_of_mem member)))
        (List.pairwise_map.mp past)
        (fun event member => across event.call (List.mem_map_of_mem member) call
          List.mem_cons_self)
        recalls (works call (List.mem_append_right _ List.mem_cons_self))
      have extended : (events ++ [made]).Pairwise (Recalls remote) :=
        List.pairwise_append.mpr ⟨recalls, List.pairwise_singleton _ made,
          fun event member other inNew => List.mem_singleton.mp inNew ▸ recalled event member⟩
      have next := ih (make_reflects remote reflects call) (following ▸ works)
        (following ▸ timed) extended
      simpa only [replay, List.append_assoc, List.singleton_append] using next

theorem replay_calls (remote : Remote) (table : CacheTable) (calls : List Call) :
    (remote.replay table calls).1.map Event.call = calls := by
  induction calls generalizing table with
  | nil => rfl
  | cons call rest ih => exact congrArg (call :: ·) (ih (call.make remote table).2)

/-- A run of fetches from an empty table, with a store that works and a clock that never goes back.
A fetch asks for its document if and only if it may and no earlier download of its key is fresh. So
downloads of one key are further apart than a document stays fresh, and as long as one is fresh, it
is what every fetch of its key gets from the cache. -/
theorem downloaded_once_while_fresh (remote : Remote) (calls : List Call)
    (works : ∀ call ∈ calls, call.undisturbed = call) (timed : calls.Pairwise (Timed remote)) :
    (∀ earlier call later, calls = earlier ++ call :: later →
      let past := (remote.replay [] earlier).1
      let start : Run CacheTable := { state := (remote.replay [] earlier).2 }
      let left := on (remote.fetch call.store call.around call.allowNetwork call.path) start
      ∀ urls, Attempts remote call.around.network start left.2 urls ↔
        urls = if call.allowNetwork && !past.any fun event => event.isDownload &&
            event.call.key == call.key && call.time - event.call.time ≤ worth remote.freshFor
          then [urlFor remote.baseUrl call.path] else []) ∧
    let events := (remote.replay [] calls).1
    events.Pairwise (fun first second => first.isDownload → second.isDownload →
      first.call.key = second.call.key →
      worth remote.freshFor < second.call.time - first.call.time) ∧
    events.Pairwise fun first second => ∀ content, first.result = .ok ⟨content, .network⟩ →
      first.call.key = second.call.key →
      second.call.time - first.call.time ≤ worth remote.freshFor →
      second.result = .ok ⟨content, .cache⟩ := by
  have empty : Reflects [] [] := ⟨List.nodup_nil, fun _ => rfl⟩
  have recalls : (remote.replay [] calls).1.Pairwise (Recalls remote) :=
    replay_recalls empty works timed List.Pairwise.nil
  refine ⟨?_, ?_, recalls⟩
  · intro earlier call later split past start left
    subst split
    obtain ⟨timedPast, -, across⟩ := List.pairwise_append.mp timed
    have reflects : Reflects start.state past := replay_reflects remote earlier empty
    have made : ∀ event ∈ past, event.call ∈ earlier := by
      intro event member
      rw [← replay_calls remote [] earlier]
      exact List.mem_map_of_mem member
    have timedEvents : past.Pairwise fun earlier later => Timed remote earlier.call later.call := by
      rw [← replay_calls remote [] earlier] at timedPast
      exact List.pairwise_map.mp timedPast
    have asks := fetch_asks reflects
      (fun event member => works event.call (List.mem_append_left _ (made event member)))
      timedEvents
      (fun event member => across event.call (made event member) call List.mem_cons_self)
      (works call (List.mem_append_right _ List.mem_cons_self))
    intro urls
    constructor
    · exact fun told => told.unique asks
    · rintro rfl
      exact asks
  · refine recalls.imp fun {first second} recalled downloaded again sameKey => ?_
    obtain ⟨content, ended⟩ := Event.isDownload_iff.mp downloaded
    obtain ⟨other, endedToo⟩ := Event.isDownload_iff.mp again
    by_contra near
    have answered := recalled content ended sameKey (not_lt.mp near)
    cases answered.symm.trans endedToo

-- A document that is asked for over an hour, and stays fresh for as long.

namespace Sample

def hourly : Remote := ⟨"http://rules", 3600, .whole 1⟩

def fetchAt (now : Float) (published : String) (allowNetwork : Bool) : Call where
  path := "python.yml"
  allowNetwork
  around := { network _ := .response 200 published.toUTF8.toList, now }

def overAnHour : List Call :=
  [fetchAt 0.5 "v1" true, fetchAt 1800 "v2" false, fetchAt 3600.5 "v3" true, fetchAt 3601 "v4" true]

theorem overAnHour_timed : overAnHour.Pairwise (Timed hourly) := by
  have halves : ∀ call ∈ overAnHour, IsSteps (-1) call.around.now := by
    simp only [overAnHour, List.forall_mem_cons]
    exact ⟨⟨1, by decide, by decide +kernel, by decide +kernel⟩,
      ⟨3600, by decide, by decide +kernel, by decide +kernel⟩,
      ⟨7201, by decide, by decide +kernel, by decide +kernel⟩,
      ⟨7202, by decide, by decide +kernel, by decide +kernel⟩, nofun⟩
  exact timed_of_steps (by decide) (by decide) (by decide +kernel) halves (by decide +kernel)

/-- At the end of the hour the document is still fresh, and half a second later it is asked for. -/
theorem asked_after_an_hour :
    let last := fetchAt 3601 "v4" true
    let start : Run CacheTable := { state := (hourly.replay [] (overAnHour.take 3)).2 }
    (∀ call ∈ overAnHour, call.undisturbed = call) ∧ overAnHour.Pairwise (Timed hourly) ∧
    (hourly.replay [] overAnHour).1.map Event.result = [.ok ⟨"v1", .network⟩,
      .ok ⟨"v1", .cache⟩, .ok ⟨"v1", .cache⟩, .ok ⟨"v4", .network⟩] ∧
    Attempts hourly last.around.network start
      (on (hourly.fetch last.store last.around true last.path) start).2
      ["http://rules/python.yml"] := by
  intro last start
  have works : ∀ call ∈ overAnHour, call.undisturbed = call := by
    simp only [overAnHour, List.forall_mem_cons]
    exact ⟨rfl, rfl, rfl, rfl, nofun⟩
  obtain ⟨asked, -⟩ := downloaded_once_while_fresh hourly overAnHour works overAnHour_timed
  refine ⟨works, overAnHour_timed, by decide +kernel, ?_⟩
  exact (asked (overAnHour.take 3) last [] rfl _).mpr (by decide +kernel)

end Sample

end Rulebook.Remote
