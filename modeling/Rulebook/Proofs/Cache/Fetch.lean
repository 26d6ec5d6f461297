import Rulebook.Cache.Fetch
import Rulebook.Proofs.Cache.Store
import Rulebook.Proofs.Running

namespace Rulebook

open Running

theorem Download.run_error {network : Network} {timeout : Decimal.Amount} {url : String}
    {failure : Failure} (failed : (run network timeout url).1 = .error failure) :
    (∃ error, failure = .failed error ∧ error.url = url) ∨
      ∃ message address, failure = .crashed message ∧ network address = .crash message := by
  unfold run at failed
  split at failed
  · cases failed
    exact .inl ⟨_, rfl, rfl⟩
  · rename_i address _
    cases replied : network address with
    | crash message =>
        simp only [replied, textOf, Except.error.injEq] at failed
        exact .inr ⟨message, address, failed.symm, replied⟩
    | failure kind message =>
        simp only [replied, textOf, Except.error.injEq] at failed
        exact .inl ⟨_, failed.symm, rfl⟩
    | response status body =>
        simp only [replied, textOf] at failed
        split at failed
        · cases failed
          exact .inl ⟨_, rfl, rfl⟩
        · split at failed
          · contradiction
          · cases failed
            exact .inl ⟨_, rfl, rfl⟩

/-- How bringing a document ends, with the entry to be cached and what was asked for. -/
structure Delivery where
  result : Except Download.Failure Fetched
  saved : Option CacheEntry := none
  requests : List Request := []

namespace Remote

variable {σ ε : Type}

/-- What a failed download is answered with: an entry at hand, unless the download crashed. -/
def fallBack (entry : Option CacheEntry) : Download.Failure → Except Download.Failure Fetched
  | .failed error => match entry with
      | some entry => .ok ⟨entry.content, .stale⟩
      | none => .error (.failed error)
  | .crashed message => .error (.crashed message)

/-- How bringing a document ends, told from the entry that was found for it. -/
def deliver (remote : Remote) (around : Surroundings) (allowNetwork : Bool) (path : String)
    (found : Option CacheEntry) : Delivery :=
  match found.filter fun entry => entry.age around.now ≤ remote.freshFor with
  | some entry => { result := .ok ⟨entry.content, .cache⟩ }
  | none =>
      let url := urlFor remote.baseUrl path
      if allowNetwork then
        let (text, request) := Download.run around.network remote.timeout url
        match text with
        | .ok content => {
            result := .ok ⟨content, .network⟩
            saved := some ⟨content, around.now⟩
            requests := request.toList }
        | .error failure => { result := fallBack found failure, requests := request.toList }
      else match found with
        | some entry => { result := .ok ⟨entry.content, .stale⟩ }
        | none =>
            { result := .error (.failed ⟨url, "updates disabled and nothing cached"⟩) }

/-- The ways in which bringing a document can end: with an entry at hand, with a download that is
to be cached, without a document although none was at hand, or in a crash of the network. -/
theorem deliver_cases (remote : Remote) (around : Surroundings) (allowNetwork : Bool)
    (path : String) (found : Option CacheEntry) :
    let delivery := remote.deliver around allowNetwork path found
    (∃ entry origin, found = some entry ∧ origin ≠ .network ∧
      delivery.result = .ok ⟨entry.content, origin⟩ ∧ delivery.saved = none) ∨
    (∃ content, delivery.result = .ok ⟨content, .network⟩ ∧
      delivery.saved = some ⟨content, around.now⟩) ∨
    (∃ error, found = none ∧ delivery.result = .error (.failed error) ∧
      error.url = urlFor remote.baseUrl path ∧ delivery.saved = none) ∨
    (∃ message address, around.network address = .crash message ∧
      delivery.result = .error (.crashed message) ∧ delivery.saved = none) := by
  simp only [deliver]
  cases fresh : found.filter fun entry => entry.age around.now ≤ remote.freshFor with
  | some entry =>
      have held : found = some entry := Option.eq_some_of_filter_eq_some fresh
      exact .inl ⟨entry, .cache, held, by decide, rfl, rfl⟩
  | none =>
      cases allowNetwork with
      | false =>
          cases found with
          | none => exact .inr (.inr (.inl ⟨_, rfl, rfl, rfl, rfl⟩))
          | some entry => exact .inl ⟨entry, .stale, rfl, by decide, rfl, rfl⟩
      | true =>
          let url := urlFor remote.baseUrl path
          cases downloaded : (Download.run around.network remote.timeout url).1 with
          | ok content =>
              simp only [if_true]
              exact .inr (.inl ⟨content, rfl, rfl⟩)
          | error failure =>
              simp only [if_true]
              rcases Download.run_error downloaded with
                ⟨error, rfl, named⟩ | ⟨message, address, rfl, crashed⟩
              · cases found with
                | none => exact .inr (.inr (.inl ⟨error, rfl, rfl, named, trivial⟩))
                | some entry => exact .inl ⟨entry, .stale, rfl, by decide, rfl, trivial⟩
              · exact .inr (.inr (.inr ⟨message, address, crashed, rfl, trivial⟩))

theorem lookUp_on (store : CacheStore σ) (key : CacheKey) (run : Run σ) :
    ∃ log, on (lookUp store key : Running σ ε _) run =
      (.ok (store.found key run.state).1,
        { run with state := (store.found key run.state).2, log }) := by
  cases answered : store.get key run.state with
  | mk answer after =>
      cases answer with
      | ok entry => exact ⟨run.log, by simp [lookUp, on_bind, CacheStore.found, answered]⟩
      | error error => exact ⟨_, by simp [lookUp, on_bind, CacheStore.found, answered]; rfl⟩

theorem save_on (store : CacheStore σ) (key : CacheKey) (entry : CacheEntry) (run : Run σ) :
    ∃ log, on (save store key entry : Running σ ε _) run =
      (.ok (), { run with state := store.kept key (some entry) run.state, log }) := by
  cases answered : store.upsert key entry run.state with
  | mk answer after =>
      cases answer with
      | ok => exact ⟨run.log, by simp [save, on_bind, CacheStore.kept, answered]⟩
      | error error => exact ⟨_, by simp [save, on_bind, CacheStore.kept, answered]; rfl⟩

/-- Bringing a document reads the store, decides by what is found, and saves what is decided. -/
theorem fetch_on (remote : Remote) (store : CacheStore σ) (around : Surroundings)
    (allowNetwork : Bool) (path : String) (run : Run σ) :
    let key := CacheKey.ofPath path
    let answer := store.found key run.state
    let delivery := remote.deliver around allowNetwork path answer.1
    ∃ log, on (remote.fetch store around allowNetwork path) run =
      (delivery.result,
        ⟨store.kept key delivery.saved answer.2, log, run.requests ++ delivery.requests⟩) := by
  intro key answer delivery
  obtain ⟨log, looked⟩ : ∃ log, on (lookUp store key : Running σ Download.Failure _) run =
    (.ok answer.1, { run with state := answer.2, log }) := lookUp_on store key run
  simp only [fetch, on_bind, key, looked, delivery, deliver]
  clear_value answer
  obtain ⟨found, state⟩ := answer
  cases fresh : found.filter fun entry => entry.age around.now ≤ remote.freshFor with
  | some entry => exact ⟨_, by simp [CacheStore.kept]; rfl⟩
  | none =>
      cases allowNetwork with
      | false =>
          cases found with
          | none => exact ⟨log, by simp [CacheStore.kept]⟩
          | some entry => exact ⟨_, by simp [CacheStore.kept]; rfl⟩
      | true =>
          let url := urlFor remote.baseUrl path
          cases downloaded : Download.run around.network remote.timeout url with
          | mk text request =>
          let asking : Run σ := ⟨state, log ++ [⟨.debug, s!"Fetching rules from {url}"⟩],
            run.requests ++ request.toList⟩
          simp only [Bool.not_true, Bool.false_eq_true, if_false, if_true, on_bind, on_note,
            on_download, downloaded, url]
          cases text with
          | ok content =>
              obtain ⟨log, saved⟩ := save_on (ε := Download.Failure) store key
                ⟨content, around.now⟩ asking
              exact ⟨log, by simp only [on_bind, saved, asking, url, key, on_pure]⟩
          | error failure =>
              cases failure with
              | failed error =>
                  cases found with
                  | none =>
                      exact ⟨_, by simp only [on_bind, on_note, fallBack, CacheStore.kept]; rfl⟩
                  | some entry =>
                      exact ⟨_, by simp only [on_bind, on_note, fallBack, CacheStore.kept]; rfl⟩
              | crashed message => exact ⟨_, by simp only [fallBack, CacheStore.kept]; rfl⟩

end Remote

end Rulebook
