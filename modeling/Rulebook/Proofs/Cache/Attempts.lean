import Rulebook.Proofs.Cache.Fetch

namespace Rulebook

open Running

/-- The line with which the log announces a download. -/
def LogLine.announcing (url : String) : LogLine := ⟨.debug, "Fetching rules from " ++ url⟩

def LogLine.announces (line : LogLine) : Bool :=
  line.severity = .debug && "Fetching rules from ".toList.isPrefixOf line.message.toList

theorem LogLine.announces_announcing (url : String) : (announcing url).announces := by
  simp only [announces, announcing, decide_true, Bool.true_and, String.toList_append]
  exact List.isPrefixOf_iff_prefix.mpr (List.prefix_append _ _)

theorem LogLine.announcing_injective {url other : String}
    (same : announcing url = announcing other) : url = other :=
  (String.append_right_inj _).mp (congrArg LogLine.message same)

theorem LogLine.announces_cacheHit (path : String) :
    (⟨.debug, s!"Rule cache hit for {path}"⟩ : LogLine).announces = false := by
  have message : (s!"Rule cache hit for {path}").toList =
      "Rule cache hit for ".toList ++ path.toList := by
    simp [toString]
  simp only [announces, message, decide_true, Bool.true_and]
  rfl

/-- Between the runs the texts were tried for addresses, in their order, and no others. -/
structure Attempts {σ : Type} (remote : Remote) (network : Network) (before after : Run σ)
    (urls : List String) : Prop where
  asked : after.requests = before.requests ++
    urls.flatMap fun url => (Download.run network remote.timeout url).2.toList
  told : ∃ lines, after.log = before.log ++ lines ∧
    lines.filter LogLine.announces = urls.map LogLine.announcing

variable {σ ε : Type} {remote : Remote} {network : Network} {before between after : Run σ}
  {urls more : List String}

namespace Attempts

theorem append (first : Attempts remote network before between urls)
    (second : Attempts remote network between after more) :
    Attempts remote network before after (urls ++ more) := by
  obtain ⟨lines, log, told⟩ := first.told
  obtain ⟨others, following, others_told⟩ := second.told
  refine ⟨?_, lines ++ others, ?_, ?_⟩
  · rw [second.asked, first.asked, List.flatMap_append, List.append_assoc]
  · rw [following, log, List.append_assoc]
  · rw [List.filter_append, List.map_append, told, others_told]

/-- Lines that announce no download are no attempts. -/
theorem of_silent {lines : List LogLine} (requests : after.requests = before.requests)
    (log : after.log = before.log ++ lines) (silent : ∀ line ∈ lines, line.announces = false) :
    Attempts remote network before after [] := by
  refine ⟨by simpa using requests, lines, log, ?_⟩
  exact List.filter_eq_nil_iff.mpr fun line member => by simp [silent line member]

theorem refl (run : Run σ) : Attempts remote network run run [] :=
  of_silent rfl (List.append_nil _).symm fun _ member => absurd member List.not_mem_nil

theorem note (severity : Severity) (message : String) (run : Run σ)
    (silent : (⟨severity, message⟩ : LogLine).announces = false) :
    Attempts remote network run { run with log := run.log ++ [⟨severity, message⟩] } [] :=
  of_silent rfl rfl (List.forall_mem_singleton.mpr silent)

theorem download (url : String) (run : Run σ) :
    Attempts remote network run ⟨run.state, run.log ++ [.announcing url],
      run.requests ++ (Download.run network remote.timeout url).2.toList⟩ [url] :=
  ⟨by simp, [.announcing url], rfl, by simp [LogLine.announces_announcing]⟩

theorem left (attempts : Attempts remote network before after urls) (state : σ) :
    Attempts remote network before { after with state } urls :=
  ⟨attempts.asked, attempts.told⟩

theorem unique (one : Attempts remote network before after urls)
    (other : Attempts remote network before after more) : urls = more := by
  obtain ⟨lines, log, told⟩ := one.told
  obtain ⟨others, sameLog, othersTold⟩ := other.told
  obtain rfl : lines = others := List.append_cancel_left (log.symm.trans sameLog)
  exact List.map_injective_iff.mpr (fun _ _ => LogLine.announcing_injective)
    (told.symm.trans othersTold)

end Attempts

namespace Remote

/-- The text that is tried for an address, given the entry that was found for a document. -/
def attempted (remote : Remote) (around : Surroundings) (allowNetwork : Bool) (path : String)
    (found : Option CacheEntry) : List String :=
  match found.filter fun entry => entry.age around.now ≤ remote.freshFor with
  | some _ => []
  | none => if allowNetwork then [urlFor remote.baseUrl path] else []

theorem attempted_eq (remote : Remote) (around : Surroundings) (allowNetwork : Bool) (path : String)
    (found : Option CacheEntry) :
    remote.attempted around allowNetwork path found =
      if allowNetwork && !found.any fun entry => entry.age around.now ≤ remote.freshFor then
        [urlFor remote.baseUrl path]
      else [] := by
  unfold attempted
  cases found with
  | none => simp only [Option.filter_none, Option.any_none, Bool.not_false, Bool.and_true]
  | some entry =>
      by_cases fresh : entry.age around.now ≤ remote.freshFor
      · simp only [Option.filter_some, Option.any_some, fresh, decide_true, if_true, Bool.not_true,
          Bool.and_false, Bool.false_eq_true, if_false]
      · simp only [Option.filter_some, Option.any_some, fresh, decide_false, Bool.false_eq_true,
          if_false, Bool.not_false, Bool.and_true]

variable (remote network) in
theorem lookUp_silent (store : CacheStore σ) (key : CacheKey) (run : Run σ) :
    ∃ after,
      on (lookUp store key : Running σ ε _) run = (.ok (store.found key run.state).1, after) ∧
      Attempts remote network run after [] := by
  cases answered : store.get key run.state with
  | mk answer state =>
      have first : Attempts remote network run { run with state } [] :=
        (Attempts.refl run).left state
      cases answer with
      | ok entry =>
          exact ⟨{ run with state }, by simp [lookUp, on_bind, CacheStore.found, answered], first⟩
      | error error =>
          refine ⟨_, by simp [lookUp, on_bind, CacheStore.found, answered]; rfl, ?_⟩
          exact first.append (Attempts.note .warning _ _ rfl)

variable (remote network) in
theorem save_silent (store : CacheStore σ) (key : CacheKey) (entry : CacheEntry) (run : Run σ) :
    ∃ after, on (save store key entry : Running σ ε _) run = (.ok (), after) ∧
      Attempts remote network run after [] := by
  cases answered : store.upsert key entry run.state with
  | mk answer state =>
      have first : Attempts remote network run { run with state } [] :=
        (Attempts.refl run).left state
      cases answer with
      | ok =>
          exact ⟨{ run with state }, by simp [save, on_bind, answered], first⟩
      | error error =>
          refine ⟨_, by simp [save, on_bind, answered]; rfl, ?_⟩
          exact first.append (Attempts.note .warning _ _ rfl)

/-- A document is asked for unless a fresh one is found or updates are disabled. -/
theorem fetch_attempts (remote : Remote) (store : CacheStore σ) (around : Surroundings)
    (allowNetwork : Bool) (path : String) (run : Run σ) :
    Attempts remote around.network run (on (remote.fetch store around allowNetwork path) run).2
      (remote.attempted around allowNetwork path
        (store.found (CacheKey.ofPath path) run.state).1) := by
  obtain ⟨looked, ran, silent⟩ := lookUp_silent (ε := Download.Failure) remote around.network
    store (CacheKey.ofPath path) run
  simp only [fetch, on_bind, ran]
  generalize (store.found (CacheKey.ofPath path) run.state).1 = found
  unfold attempted
  cases fresh : found.filter fun entry => entry.age around.now ≤ remote.freshFor with
  | some entry =>
      exact silent.append (Attempts.note .debug _ _ (LogLine.announces_cacheHit path))
  | none =>
      cases allowNetwork with
      | false =>
          cases found with
          | none => exact silent
          | some entry => exact silent.append (Attempts.note .warning _ _ rfl)
      | true =>
          simp only [Bool.not_true, Bool.false_eq_true, if_false, if_true, on_bind, on_note,
            on_download]
          let url := urlFor remote.baseUrl path
          let asking : Run σ := ⟨looked.state, looked.log ++ [.announcing url],
            looked.requests ++ (Download.run around.network remote.timeout url).2.toList⟩
          have tried : Attempts remote around.network run asking [url] :=
            silent.append (Attempts.download url looked)
          cases (Download.run around.network remote.timeout url).1 with
          | ok content =>
              obtain ⟨saved, ran, quiet⟩ := save_silent (ε := Download.Failure) remote
                around.network store (CacheKey.ofPath path) ⟨content, around.now⟩ asking
              change Attempts remote around.network run (on (do
                save store (CacheKey.ofPath path) ⟨content, around.now⟩
                return (⟨content, .network⟩ : Fetched)) asking).2 [url]
              rw [on_bind, ran]
              exact tried.append quiet
          | error failure =>
              cases failure with
              | failed error =>
                  have failed := tried.append (Attempts.note .error error.text asking rfl)
                  cases found with
                  | none => exact failed
                  | some entry => exact failed.append (Attempts.note .warning _ _ rfl)
              | crashed message => exact tried

end Remote

end Rulebook
