import Rulebook.Loading
import Rulebook.Proofs.Cache.Fetch
import Rulebook.Proofs.Cache.Key
import Rulebook.Proofs.Files

namespace Rulebook

open Running

variable {σ τ : Type}

/-- What the loading of a source comes to: its document, the state left and what was asked for. -/
structure Loaded (σ : Type) where
  result : Except SourceFailure (Document × Bool)
  state : σ
  requests : List Request := []

namespace LoadResult

/-- What one source adds to a result, given what comes of its document. -/
def contribution (source : Source) :
    Except SourceFailure (Document × Bool) → Except Breakdown LoadResult
  | .ok (document, stale) =>
      .ok { rules := document.rules, staleSources := if stale then [source.location] else [] }
  | .error (.reported error) => .ok { errors := [error] }
  | .error (.breakdown cause) => .error cause

/-- One result after another. -/
def followedBy (first second : LoadResult) : LoadResult :=
  ⟨first.rules ++ second.rules, first.errors ++ second.errors,
    first.staleSources ++ second.staleSources⟩

end LoadResult

namespace Loader

/-- The document of a source and the state left by its loading, told from the state before. -/
def loaded (loader : Loader σ) (around : Surroundings) (noUpdate : Bool) (source : Source)
    (state : σ) : Loaded σ :=
  match source.localPath with
  | some path => {
      result := (readFile (loader.files state) path).map fun document => (document, false)
      state }
  | none =>
      let answer := loader.store.found source.key state
      let delivery := loader.remote.deliver around (!noUpdate) source.remotePath answer.1
      { result := match delivery.result with
          | .ok fetched => (parseDocument fetched.content source.url).map fun document =>
              (document, fetched.isStale)
          | .error (.failed error) => .error (.reported ⟨source.url, .failedFetch error⟩)
          | .error (.crashed message) => .error (.breakdown (.crashed message))
        state := loader.store.kept source.key delivery.saved answer.2
        requests := delivery.requests }

variable (loader : Loader σ) (around : Surroundings) (noUpdate : Bool)

theorem document_on (source : Source) (run : Run σ) :
    let loaded := loader.loaded around noUpdate source run.state
    ∃ log, on (loader.document around noUpdate source) run =
      (loaded.result, ⟨loaded.state, log, run.requests ++ loaded.requests⟩) := by
  cases place : source.localPath with
  | some path =>
      refine ⟨run.log, ?_⟩
      simp only [document, place, on_bind, on_get, loaded, List.append_nil]
      cases readFile (loader.files run.state) path <;> rfl
  | none =>
      obtain ⟨log, fetched⟩ :=
        loader.remote.fetch_on loader.store around (!noUpdate) source.remotePath run
      refine ⟨log, ?_⟩
      simp only [document, place, on_bind, on_outcome, fetched, loaded, Source.key]
      generalize (loader.remote.deliver around (!noUpdate) source.remotePath
        (loader.store.found (CacheKey.ofPath source.remotePath) run.state).1) = delivery
      match delivery.result with
      | .ok fetched =>
          simp only [on_bind]
          cases parseDocument fetched.content source.url <;> rfl
      | .error (.failed error) => rfl
      | .error (.crashed message) => rfl

theorem add_on (result : LoadResult) (source : Source) (run : Run σ) :
    let loaded := loader.loaded around noUpdate source run.state
    ∃ log, on (loader.add around noUpdate result source) run =
      ((LoadResult.contribution source loaded.result).map result.followedBy,
        ⟨loaded.state, log, run.requests ++ loaded.requests⟩) := by
  intro loaded
  obtain ⟨log, ran⟩ := loader.document_on around noUpdate source run
  simp only [add, on_bind, on_outcome, ran, loaded]
  match (loader.loaded around noUpdate source run.state).result with
  | .ok (document, stale) =>
      exact ⟨log, by simp [LoadResult.contribution, LoadResult.followedBy, Except.map]⟩
  | .error (.reported error) =>
      refine ⟨log ++
        [⟨.warning, s!"Failed to load rules from {source.location}: {error.text}"⟩], ?_⟩
      simp only [on_bind, on_note, on_pure, LoadResult.contribution, LoadResult.followedBy,
        Except.map, List.append_nil]
  | .error (.breakdown cause) => exact ⟨log, rfl⟩

/-- The store keeps its entries apart and leaves the files alone. -/
structure Steady (loader : Loader σ) (entries : σ → CacheKey → Option CacheEntry) : Prop where
  apart : loader.store.KeepsApart entries
  spares : loader.store.Spares loader.files

/-- What a source is loaded from is the same in two worlds: the text of its file, or the cached
entry, the time and the answer to a download. -/
def SameDocument (loader : Loader σ) (entries : σ → CacheKey → Option CacheEntry)
    (source : Source) (first second : Surroundings × σ) : Prop :=
  match source.localPath with
  | some path => (loader.files first.2).readText path = (loader.files second.2).readText path
  | none =>
      let url := Remote.urlFor loader.remote.baseUrl source.remotePath
      entries first.2 source.key = entries second.2 source.key ∧ first.1.now = second.1.now ∧
      Download.run first.1.network loader.remote.timeout url =
        Download.run second.1.network loader.remote.timeout url

variable {loader around noUpdate} {entries : σ → CacheKey → Option CacheEntry}
  {source other : Source}

/-- A source yields the same wherever what it is loaded from is the same. -/
theorem loaded_agrees {first second : Surroundings × σ}
    (firstFound : (loader.store.found source.key first.2).1 = entries first.2 source.key)
    (secondFound : (loader.store.found source.key second.2).1 = entries second.2 source.key)
    (same : loader.SameDocument entries source first second) :
    (loader.loaded first.1 noUpdate source first.2).result =
        (loader.loaded second.1 noUpdate source second.2).result ∧
      (loader.loaded first.1 noUpdate source first.2).requests =
        (loader.loaded second.1 noUpdate source second.2).requests := by
  unfold SameDocument at same
  cases place : source.localPath with
  | some path =>
      simp only [place] at same
      simp only [loaded, place, readFile, same, and_self]
  | none =>
      simp only [place] at same
      obtain ⟨entry, time, answer⟩ := same
      have delivered :
          loader.remote.deliver first.1 (!noUpdate) source.remotePath (entries first.2 source.key) =
            loader.remote.deliver second.1 (!noUpdate) source.remotePath
              (entries second.2 source.key) := by
        simp only [Remote.deliver, entry, time, answer]
      simp only [loaded, place, firstFound, secondFound, delivered, and_self]

theorem loaded_congr (steady : loader.Steady entries) {first second : Surroundings × σ}
    (same : loader.SameDocument entries source first second) :
    (loader.loaded first.1 noUpdate source first.2).result =
      (loader.loaded second.1 noUpdate source second.2).result :=
  (loaded_agrees (steady.apart.found_result _ _) (steady.apart.found_result _ _) same).1

/-- Two states are the same for a source if its file has the same text in them, and its key the
same entry. -/
theorem sameDocument_of_spared {before after : σ}
    (text : ∀ path ∈ other.localPath,
      (loader.files after).readText path = (loader.files before).readText path)
    (entry : entries after other.key = entries before other.key) :
    loader.SameDocument entries other (around, after) (around, before) := by
  cases place : other.localPath with
  | some path => simpa only [SameDocument, place] using text path place
  | none => simpa only [SameDocument, place, and_true] using entry

/-- A world of states, which the store does not leave. In them it keeps its entries apart, and the
same is to be seen of some paths. -/
structure Confined (loader : Loader σ) (entries : σ → CacheKey → Option CacheEntry)
    (paths : List Path) (world : σ → Prop) : Prop where
  found_result : ∀ key state, world state →
    (loader.store.found key state).1 = entries state key
  found_entries : ∀ key state, world state →
    entries (loader.store.found key state).2 = entries state
  found_world : ∀ key state, world state → world (loader.store.found key state).2
  kept_other : ∀ key entry state other, world state → other ≠ key →
    entries (loader.store.kept key entry state) other = entries state other
  kept_world : ∀ key entry state, world state → world (loader.store.kept key entry state)
  glance : ∀ first second, world first → world second → ∀ path ∈ paths,
    (loader.files first).glance path = (loader.files second).glance path

theorem Steady.confined (steady : loader.Steady entries) (files : Files) (paths : List Path) :
    loader.Confined entries paths fun state => loader.files state = files where
  found_result key state _ := steady.apart.found_result key state
  found_entries key state _ := steady.apart.found_entries key state
  found_world key state same := (steady.spares.found_view key state).trans same
  kept_other key entry state other _ := steady.apart.kept_other key entry state other
  kept_world key entry state same := (steady.spares.kept_view key entry state).trans same
  glance first second same again path _ := by rw [same, again]

namespace Confined

variable {paths : List Path} {world : σ → Prop}

theorem readText (confined : loader.Confined entries paths world) {first second : σ}
    (inside : world first) (again : world second) {path : Path} (consulted : path ∈ paths) :
    (loader.files first).readText path = (loader.files second).readText path :=
  congrArg (·.2.2) (confined.glance first second inside again path consulted)

variable (around noUpdate)

theorem loaded_world (confined : loader.Confined entries paths world) {state : σ}
    (inside : world state) : world (loader.loaded around noUpdate source state).state := by
  cases place : source.localPath with
  | some path => simpa only [loaded, place] using inside
  | none =>
      simp only [loaded, place]
      exact confined.kept_world _ _ _ (confined.found_world _ _ inside)

theorem loaded_other (confined : loader.Confined entries paths world) {state : σ}
    (inside : world state) {key : CacheKey} (different : key ≠ source.key) :
    entries (loader.loaded around noUpdate source state).state key = entries state key := by
  cases place : source.localPath with
  | some path => simp only [loaded, place]
  | none =>
      simp only [loaded, place]
      rw [confined.kept_other _ _ _ _ (confined.found_world _ _ inside) different,
        confined.found_entries _ _ inside]

/-- Where its entry is the same, a source yields the same in all states of a world. -/
theorem loaded_agrees (confined : loader.Confined entries paths world) {first second : σ}
    (inside : world first) (again : world second)
    (consulted : ∀ path ∈ source.localPath, path ∈ paths)
    (entry : entries first source.key = entries second source.key) :
    (loader.loaded around noUpdate source first).result =
        (loader.loaded around noUpdate source second).result ∧
      (loader.loaded around noUpdate source first).requests =
        (loader.loaded around noUpdate source second).requests := by
  have same : loader.SameDocument entries source (around, first) (around, second) :=
    sameDocument_of_spared (fun path held => confined.readText inside again (consulted path held))
      entry
  exact Loader.loaded_agrees (confined.found_result _ _ inside) (confined.found_result _ _ again)
    same

/-- What a source yields does not depend on whether one with another key is loaded before it. -/
theorem loaded_after (confined : loader.Confined entries paths world) {state : σ}
    (inside : world state) (consulted : ∀ path ∈ other.localPath, path ∈ paths)
    (different : other.key ≠ source.key) :
    let next := (loader.loaded around noUpdate source state).state
    (loader.loaded around noUpdate other next).result =
        (loader.loaded around noUpdate other state).result ∧
      (loader.loaded around noUpdate other next).requests =
        (loader.loaded around noUpdate other state).requests :=
  confined.loaded_agrees around noUpdate (confined.loaded_world around noUpdate inside) inside
    consulted (confined.loaded_other around noUpdate inside different)

end Confined

theorem parseDocument_location {text origin : String} {error : LoadError}
    (failed : parseDocument text origin = .error (.reported error)) : error.location = origin := by
  unfold parseDocument at failed
  split at failed <;> cases failed
  rfl

theorem loaded_error_location {state : σ} {error : LoadError}
    (failed : (loader.loaded around noUpdate source state).result = .error (.reported error)) :
    error.location = source.location := by
  cases place : source.localPath with
  | some path =>
      simp only [loaded, place, Source.location, except_map_eq_error, readFile] at failed ⊢
      cases text : (loader.files state).readText path with
      | ok text =>
          simp only [text] at failed
          exact parseDocument_location failed
      | error problem =>
          simp only [text] at failed
          cases failed
          rfl
  | none =>
      simp only [loaded, place, Source.location] at failed ⊢
      match ended : (loader.remote.deliver around (!noUpdate) source.remotePath
          (loader.store.found source.key state).1).result with
      | .ok fetched =>
          simp only [ended, except_map_eq_error] at failed
          exact parseDocument_location failed
      | .error (.failed problem) =>
          simp only [ended] at failed
          cases failed
          rfl
      | .error (.crashed message) =>
          simp only [ended] at failed
          cases failed

/-- Files beside the state of a store. -/
def besideFiles (store : CacheStore τ) : CacheStore (Files × τ) :=
  store.within Prod.snd fun inner whole => (whole.1, inner)

/-- A loader whose store has nothing to do with the files. -/
def beside (catalog : Catalog) (remote : Remote) (store : CacheStore τ) : Loader (Files × τ) :=
  ⟨catalog, remote, besideFiles store, Prod.fst⟩

theorem beside_steady (catalog : Catalog) (remote : Remote) {store : CacheStore τ}
    {entries : τ → CacheKey → Option CacheEntry} (apart : store.KeepsApart entries) :
    (beside catalog remote store).Steady fun state => entries state.2 := by
  have kept : (besideFiles store).KeepsApart fun state => entries state.2 :=
    apart.within fun _ _ => rfl
  have spared : (besideFiles store).Spares Prod.fst := CacheStore.within_spares fun _ _ => rfl
  exact ⟨kept, spared⟩

/-- A store that works, and that has nothing to do with the files, finds again what it is given. -/
theorem beside_records (catalog : Catalog) (remote : Remote) {store : CacheStore τ}
    {entries : τ → CacheKey → Option CacheEntry} (works : store.Works entries)
    {world : Files × τ → Prop} {time : Float} :
    (beside catalog remote store).store.Records (fun state => entries state.2) world time := by
  have beside : (besideFiles store).Works fun state => entries state.2 :=
    works.within fun _ _ => rfl
  exact beside.records

theorem beside_refuses (catalog : Catalog) (remote : Remote) {store : CacheStore τ}
    (fails : store.Fails) {entries : Files × τ → CacheKey → Option CacheEntry}
    {world : Files × τ → Prop} {time : Float} :
    (beside catalog remote store).store.RecordsOrRefuses entries world time := by
  have beside : (besideFiles store).Fails := fails.within fun _ => rfl
  exact beside.refuses

end Loader

end Rulebook
