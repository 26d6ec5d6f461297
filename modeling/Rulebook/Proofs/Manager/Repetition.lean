import Rulebook.Proofs.Loading.Disk
import Rulebook.Proofs.Loading.Repetition
import Rulebook.Proofs.Manager.Loading
import Rulebook.Proofs.Manager.Session

namespace Rulebook

open Running

variable {σ : Type}

/-- The document of the source was not obtained. -/
def LoadError.Unobtained (error : LoadError) : Prop := ∃ fetch, error.cause = .failedFetch fetch

namespace LoadResult

variable {sources : List Source}
  {first second : Source → Except SourceFailure (Document × Bool)}

/-- The rules and the errors are decided by the documents, whether they are stale or not. -/
theorem combined_documents
    (same : ∀ source ∈ sources, (first source).map Prod.fst = (second source).map Prod.fst) :
    (combined sources first).rules = (combined sources second).rules ∧
      (combined sources first).errors = (combined sources second).errors := by
  induction sources with
  | nil => exact ⟨rfl, rfl⟩
  | cons source rest ih =>
      obtain ⟨own, others⟩ := List.forall_mem_cons.mp same
      obtain ⟨rules, errors⟩ := ih others
      simp only [combined] at rules errors
      simp only [combined, List.flatMap_cons, List.filterMap_cons, rules, errors]
      cases one : first source with
      | ok found =>
          rw [one] at own
          obtain ⟨again, two, document⟩ := except_map_eq_ok.mp own.symm
          simp only [two, document, and_self]
      | error failure =>
          rw [one] at own
          simp only [except_map_eq_error.mp own.symm, and_self]

theorem mem_combined_errors {source : Source} {error : LoadError} (member : source ∈ sources)
    (reported : first source = .error (.reported error)) :
    error ∈ (combined sources first).errors :=
  List.mem_filterMap.mpr ⟨source, member, by simp only [reported]⟩

end LoadResult

theorem breakdown_of_map_eq {first second : Except SourceFailure (Document × Bool)}
    (same : first.map Prod.fst = second.map Prod.fst) {cause : Breakdown}
    (broken : first = .error (.breakdown cause)) : second = .error (.breakdown cause) := by
  subst broken
  exact except_map_eq_error.mp same.symm

namespace Manager

variable {loader : Loader σ} {around : Surroundings} {query : RuleQuery} {manager kept : Manager}
  {resolved : Resolved} {run after : Run σ}

/-- What is answered without an earlier result is loaded. -/
theorem load_of_resolve (unknown : manager.results.lookup query.key = none)
    (returned : on (resolve loader around query manager) run = (.ok (resolved, kept), after)) :
    on (load loader around query) run = (.ok resolved.content, after) := by
  rw [resolve_on, unknown] at returned
  simp only [Prod.mk.injEq] at returned
  obtain ⟨answered, rfl⟩ := returned
  obtain ⟨result, loaded, keeping⟩ := except_map_eq_ok.mp answered
  cases keeping
  exact Prod.ext loaded rfl

/-- A cleared manager answers what is loaded. -/
theorem resolve_of_load {result : LoadResult} (between : Manager)
    (loaded : on (load loader around query) run = (.ok result, after)) :
    ∃ resolved kept, on (resolve loader around query between.clear) run =
      (.ok (resolved, kept), after) ∧ resolved.content = result := by
  refine ⟨(between.clear.keep query.key result).1, (between.clear.keep query.key result).2, ?_, rfl⟩
  have unknown : between.clear.results.lookup query.key = none := rfl
  rw [resolve_on, unknown, loaded]
  rfl

variable {entries : σ → CacheKey → Option CacheEntry} {world : σ → Prop}

theorem resolve_world (confined : loader.Confined entries (query.paths loader.catalog) world)
    (inside : world run.state) {ended : Except Breakdown (Resolved × Manager)}
    (ran : on (resolve loader around query manager) run = (ended, after)) :
    world after.state := by
  obtain rfl : (on (resolve loader around query manager) run).2 = after := congrArg Prod.snd ran
  rw [resolve_on]
  cases manager.results.lookup query.key with
  | some resolved => exact inside
  | none => exact load_world confined inside

/-- In an unchanged world a query is answered as before. The manager may do anything in between and
is then cleared; the store may work or refuse all that it is given. -/
theorem resolve_repeated (plain : query.Plain)
    (confined : loader.Confined entries (query.paths loader.catalog) world)
    (records : loader.store.RecordsOrRefuses entries world around.now)
    (unknown : manager.results.lookup query.key = none) (inside : world run.state)
    (returned : on (resolve loader around query manager) run = (.ok (resolved, kept), after))
    (between : Manager) (again : Run σ) (unchanged : world again.state)
    (unfetched : entries again.state = entries after.state) :
    ∃ repeated last final,
      on (resolve loader around query between.clear) again = (.ok (repeated, last), final) ∧
        repeated.rules = resolved.rules ∧ repeated.errors = resolved.errors ∧
        repeated.staleSources = resolved.staleSources := by
  obtain ⟨sources, project, answers, reported, found, own⟩ :=
    load_returned confined plain inside (load_of_resolve unknown returned)
  have same : ∀ source ∈ sources,
      (loader.loaded around query.noUpdate source again.state).result =
        (loader.loaded around query.noUpdate source run.state).result := by
    intro source member
    obtain ⟨moment, within, before, left⟩ := own source member
    have consulted := answers.consulted source member
    calc (loader.loaded around query.noUpdate source again.state).result
        = (loader.loaded around query.noUpdate source moment).result :=
          confined.loaded_again records consulted within unchanged
            ((congrFun unfetched source.key).trans left)
      _ = (loader.loaded around query.noUpdate source run.state).result :=
          (confined.loaded_agrees around query.noUpdate within inside consulted before).1
  obtain ⟨final, loaded, -⟩ := load_reported around query confined plain unchanged
    (confined.answers inside unchanged answers)
    fun source member cause => same source member ▸ reported source member cause
  rw [LoadResult.combined_congr same, ← found] at loaded
  obtain ⟨repeated, last, ended, content⟩ := resolve_of_load between loaded
  exact ⟨repeated, last, final, ended, congrArg LoadResult.rules content,
    congrArg LoadResult.errors content, congrArg LoadResult.staleSources content⟩

/-- A query whose documents were all obtained is answered with the same rules and errors later on,
when updates are disabled: at any time, whatever has become of the network, without a request. -/
theorem resolve_replayed_offline (plain : query.Plain)
    (confined : loader.Confined entries (query.paths loader.catalog) world)
    (records : loader.store.Records entries world around.now)
    (unknown : manager.results.lookup query.key = none) (inside : world run.state)
    (returned : on (resolve loader around query manager) run = (.ok (resolved, kept), after))
    (obtained : ∀ error ∈ resolved.errors, ¬ error.Unobtained) (later : Surroundings)
    (between : Manager) (again : Run σ) (unchanged : world again.state)
    (unfetched : entries again.state = entries after.state) :
    ∃ replayed last final,
      on (resolve loader later { query with noUpdate := true } between.clear) again =
          (.ok (replayed, last), final) ∧
        replayed.rules = resolved.rules ∧ replayed.errors = resolved.errors ∧
        final.requests = again.requests := by
  obtain ⟨sources, project, answers, reported, found, own⟩ :=
    load_returned confined plain inside (load_of_resolve unknown returned)
  have offline : ∀ source ∈ sources,
      (loader.loaded later true source again.state).result.map Prod.fst =
          (loader.loaded around query.noUpdate source run.state).result.map Prod.fst ∧
        (loader.loaded later true source again.state).requests = [] := by
    intro source member
    obtain ⟨moment, within, before, left⟩ := own source member
    have consulted := answers.consulted source member
    have first := (confined.loaded_agrees around query.noUpdate within inside consulted before).1
    rw [← first]
    refine confined.loaded_offline records consulted within unchanged
      ((congrFun unfetched source.key).trans left) (fun error failed => ?_) fun cause broken => ?_
    · have listed : (⟨source.url, .failedFetch error⟩ : LoadError) ∈ resolved.content.errors := by
        rw [found]
        exact List.mem_append_left _
          (LoadResult.mem_combined_errors member (first.symm.trans failed))
      exact obtained _ listed ⟨error, rfl⟩
    · exact reported source member cause (first.symm.trans broken)
  have answersAgain := confined.answers inside unchanged answers
  have answersOffline :
      loader.Answers { query with noUpdate := true } again.state sources project :=
    ⟨answersAgain.chain, answersAgain.project⟩
  obtain ⟨final, loaded, requests⟩ := load_reported later { query with noUpdate := true } confined
    ⟨plain.language, plain.framework⟩ unchanged answersOffline
    fun source member cause broken =>
      reported source member cause (breakdown_of_map_eq (offline source member).1 broken)
  obtain ⟨rules, errors⟩ := LoadResult.combined_documents fun source member =>
    (offline source member).1
  obtain ⟨replayed, last, ended, content⟩ := resolve_of_load between loaded
  obtain ⟨sameRules, sameErrors⟩ := query.assembled_congr project rules errors
  refine ⟨replayed, last, final, ended, ?_, ?_, ?_⟩
  · calc replayed.rules = _ := congrArg LoadResult.rules content
      _ = _ := sameRules
      _ = resolved.rules := congrArg LoadResult.rules found.symm
  · calc replayed.errors = _ := congrArg LoadResult.errors content
      _ = _ := sameErrors
      _ = resolved.errors := congrArg LoadResult.errors found.symm
  · rw [requests, List.flatMap_eq_nil_iff.mpr fun source member => (offline source member).2,
      List.append_nil]

end Manager

-- A chain of a local file, a published document and one that is published but no document, asked
-- for with a database whose folder is still to be made.

namespace Manager.Sample

def files : Files := Loader.Sample.files "rules:\n- id: own"

def query : RuleQuery :=
  { language := some "python", framework := some "web", project := some ⟨"/", ["home"]⟩ }

def database : Path := ⟨"/", ["cache", "rules.db"]⟩

def loader : Loader Disk := .onDisk Loader.Sample.catalog Loader.Sample.remote database

def online : Surroundings where
  network address :=
    if address = "http://rules/python.yml" then
      .response 200 "rules:\n- id: fetched\n  weight: 2.5".toUTF8.toList
    else .response 200 "- id: loose".toUTF8.toList
  now := 100

def offline : Surroundings := { network _ := .failure "timeout" "", now := 1000000 }

/-- The error of the document that is none. -/
def broken : LoadError :=
  ⟨"http://rules/frameworks/web.yml", .invalidDocument "must be a YAML mapping"⟩

/-- The ids of the rules, the errors, and how many requests have been made. -/
def outline {σ : Type} : Except Breakdown (Resolved × Manager) × Run σ →
    Option (List String × List LoadError × Nat)
  | (.ok (resolved, _), after) =>
      some (resolved.rules.map Rule.id, resolved.errors, after.requests.length)
  | (.error _, _) => none

theorem answered {σ : Type} {ended : Except Breakdown (Resolved × Manager) × Run σ}
    {ids : List String} {errors : List LoadError} {requests : Nat}
    (outlined : outline ended = some (ids, errors, requests)) :
    ∃ resolved kept after, ended = (.ok (resolved, kept), after) ∧
      resolved.rules.map Rule.id = ids ∧ resolved.errors = errors ∧
      after.requests.length = requests := by
  match ended with
  | (.ok (resolved, kept), after) =>
      simp only [outline, Option.some.injEq, Prod.mk.injEq] at outlined
      exact ⟨resolved, kept, after, rfl, outlined⟩
  | (.error cause, after) => cases outlined

theorem disk_shows :
    ({ files } : Disk).Shows database (query.paths loader.catalog) files where
  serves := ⟨[], rfl, ["cache", "rules.db"], by decide, rfl, rfl⟩
  before _ _ := rfl
  after path named := by
    have listed : query.paths loader.catalog = [⟨"/", ["rules", "general.yml"]⟩,
        ⟨"/", ["rules", "python.yml"]⟩, ⟨"/", ["rules", "frameworks", "web.yml"]⟩,
        ⟨"/", ["home", ".rulekit", "rules", "custom.yml"]⟩] := rfl
    rw [listed] at named
    simp only [List.mem_cons, List.not_mem_nil, or_false] at named
    rcases named with rfl | rfl | rfl | rfl <;> rfl

theorem loader_confined : loader.Confined (Disk.entries database)
    (query.paths loader.catalog) (Disk.Shows database (query.paths loader.catalog) files) :=
  Loader.onDisk_confined _ _ _ _ _

theorem first_outline : outline (on (resolve loader online query {}) { state := { files } }) =
    some (["own", "fetched"], [broken], 2) := by decide +kernel

/-- A loader whose store is always out of order. -/
def locked : Loader (Files × Unit) :=
  .beside Loader.Sample.catalog Loader.Sample.remote (.failing "database is locked")

theorem locked_confined : locked.Confined (fun _ _ => none) (query.paths locked.catalog)
    fun state => state.1 = files :=
  (Loader.beside_steady _ _ (CacheStore.failing_fails _).keepsApart).confined _ _

/-- The documents are found in the database the second time, or are downloaded once more. -/
theorem answered_twice :
    (∃ resolved kept after repeated last final,
      on (resolve loader online query {}) { state := { files } } =
          (.ok (resolved, kept), after) ∧
        resolved.rules.map Rule.id = ["own", "fetched"] ∧ resolved.errors = [broken] ∧
        after.requests.length = 2 ∧
        on (resolve loader online query kept.clear) { state := after.state } =
          (.ok (repeated, last), final) ∧
        repeated.rules = resolved.rules ∧ repeated.errors = resolved.errors ∧
        repeated.staleSources = resolved.staleSources) ∧
    ∃ resolved kept after repeated last final,
      on (resolve locked online query {}) { state := (files, ()) } =
          (.ok (resolved, kept), after) ∧
        resolved.rules.map Rule.id = ["own", "fetched"] ∧ resolved.errors = [broken] ∧
        on (resolve locked online query kept.clear) { state := after.state } =
          (.ok (repeated, last), final) ∧
        repeated.rules = resolved.rules ∧ repeated.errors = resolved.errors ∧
        repeated.staleSources = resolved.staleSources := by
  have plain : query.Plain := ⟨by decide, by decide⟩
  refine ⟨?_, ?_⟩
  · obtain ⟨resolved, kept, after, ran, ids, errors, requests⟩ := answered first_outline
    have unchanged := resolve_world loader_confined disk_shows ran
    obtain ⟨repeated, last, final, again⟩ := resolve_repeated plain loader_confined
      Loader.onDisk_recordsOrRefuses rfl disk_shows ran kept { state := after.state } unchanged rfl
    exact ⟨resolved, kept, after, repeated, last, final, ran, ids, errors, requests, again⟩
  · have outlined : outline (on (resolve locked online query {}) { state := (files, ()) }) =
        some (["own", "fetched"], [broken], 2) := by decide +kernel
    obtain ⟨resolved, kept, after, ran, ids, errors, -⟩ := answered outlined
    have unchanged := resolve_world locked_confined rfl ran
    obtain ⟨repeated, last, final, again⟩ := resolve_repeated plain locked_confined
      (Loader.beside_refuses _ _ (CacheStore.failing_fails _)) rfl rfl ran kept
      { state := after.state } unchanged rfl
    exact ⟨resolved, kept, after, repeated, last, final, ran, ids, errors, again⟩

/-- A loader that keeps documents in the memory. -/
def remembering : Loader (Files × CacheTable) :=
  .beside Loader.Sample.catalog Loader.Sample.remote .memory

theorem remembering_confined : remembering.Confined (fun state => state.2.find?)
    (query.paths remembering.catalog) fun state => state.1 = files :=
  (Loader.beside_steady _ _ CacheStore.memory_works.keepsApart).confined _ _

/-- The documents are found in the database much later, when the network is down; and so they are in
the memory, where one of them was not fresh even before. -/
theorem answered_offline :
    (∃ resolved kept after replayed last final,
      on (resolve loader online query {}) { state := { files } } =
          (.ok (resolved, kept), after) ∧
        resolved.rules.map Rule.id = ["own", "fetched"] ∧ resolved.errors = [broken] ∧
        after.requests.length = 2 ∧
        on (resolve loader offline { query with noUpdate := true } kept.clear)
          { state := after.state } = (.ok (replayed, last), final) ∧
        replayed.rules = resolved.rules ∧ replayed.errors = resolved.errors ∧
        final.requests = []) ∧
    ∃ resolved kept after replayed last final,
      on (resolve remembering Loader.Sample.around query {})
          { state := (files, Loader.Sample.cached) } = (.ok (resolved, kept), after) ∧
        resolved.rules.map Rule.id = ["own", "cached", "fetched"] ∧ resolved.errors = [] ∧
        on (resolve remembering offline { query with noUpdate := true } kept.clear)
          { state := after.state } = (.ok (replayed, last), final) ∧
        replayed.rules = resolved.rules ∧ replayed.errors = resolved.errors ∧
        final.requests = [] := by
  have plain : query.Plain := ⟨by decide, by decide⟩
  refine ⟨?_, ?_⟩
  · obtain ⟨resolved, kept, after, ran, ids, errors, requests⟩ := answered first_outline
    have obtained : ∀ error ∈ resolved.errors, ¬ error.Unobtained := by
      rw [errors, List.forall_mem_singleton]
      rintro ⟨fetch, failed⟩
      cases failed
    have unchanged := resolve_world loader_confined disk_shows ran
    obtain ⟨replayed, last, final, again⟩ := resolve_replayed_offline plain loader_confined
      (Loader.onDisk_records (by decide +kernel)) rfl disk_shows ran obtained offline kept
      { state := after.state } unchanged rfl
    exact ⟨resolved, kept, after, replayed, last, final, ran, ids, errors, requests, again⟩
  · have outlined : outline (on (resolve remembering Loader.Sample.around query {})
        { state := (files, Loader.Sample.cached) }) =
          some (["own", "cached", "fetched"], [], 2) := by decide +kernel
    obtain ⟨resolved, kept, after, ran, ids, errors, -⟩ := answered outlined
    have obtained : ∀ error ∈ resolved.errors, ¬ error.Unobtained := by simp [errors]
    have unchanged := resolve_world remembering_confined rfl ran
    obtain ⟨replayed, last, final, again⟩ := resolve_replayed_offline plain remembering_confined
      (Loader.beside_records _ _ CacheStore.memory_works) rfl rfl ran obtained offline kept
      { state := after.state } unchanged rfl
    exact ⟨resolved, kept, after, replayed, last, final, ran, ids, errors, again⟩

end Manager.Sample

end Rulebook
