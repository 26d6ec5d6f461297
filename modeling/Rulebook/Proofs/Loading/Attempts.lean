import Rulebook.Proofs.Cache.Attempts
import Rulebook.Proofs.Cache.Sharing
import Rulebook.Proofs.Loading.Chain

namespace Rulebook

open Running

variable {σ : Type}

namespace Loader

variable {loader : Loader σ} {around : Surroundings} {noUpdate : Bool}
  {entries : σ → CacheKey → Option CacheEntry} {paths : List Path} {world : σ → Prop}
  {sources : List Source} {source : Source} {state : σ}

/-- The addresses that are tried for a source, given what the cache holds for it. -/
def attempted (loader : Loader σ) (around : Surroundings) (noUpdate : Bool)
    (held : CacheKey → Option CacheEntry) (source : Source) : List String :=
  match source.localPath with
  | some _ => []
  | none => loader.remote.attempted around (!noUpdate) source.remotePath (held source.key)

theorem attempted_congr {held other : CacheKey → Option CacheEntry}
    (same : held source.key = other source.key) :
    loader.attempted around noUpdate held source =
      loader.attempted around noUpdate other source := by
  simp only [attempted, same]

theorem attempted_flatMap_congr {held other : CacheKey → Option CacheEntry}
    (same : ∀ source ∈ sources, held source.key = other source.key) :
    sources.flatMap (loader.attempted around noUpdate held) =
      sources.flatMap (loader.attempted around noUpdate other) :=
  List.flatMap_congr fun source member => attempted_congr (same source member)

theorem document_attempts (loader : Loader σ) (around : Surroundings) (noUpdate : Bool)
    (source : Source) (run : Run σ) :
    Attempts loader.remote around.network run (on (loader.document around noUpdate source) run).2
      (loader.attempted around noUpdate (fun key => (loader.store.found key run.state).1)
        source) := by
  unfold attempted
  cases place : source.localPath with
  | some path =>
      simp only [document, place, on_bind, on_get]
      cases readFile (loader.files run.state) path <;> exact .refl run
  | none =>
      have fetched := loader.remote.fetch_attempts loader.store around (!noUpdate)
        source.remotePath run
      simp only [document, place, on_bind, on_outcome]
      cases (on (loader.remote.fetch loader.store around (!noUpdate) source.remotePath) run).1 with
      | ok document =>
          simp only [on_bind]
          cases parseDocument document.content source.url <;> exact fetched
      | error failure => cases failure <;> exact fetched

theorem add_attempts (loader : Loader σ) (around : Surroundings) (noUpdate : Bool)
    (result : LoadResult) (source : Source) (run : Run σ) :
    Attempts loader.remote around.network run (on (loader.add around noUpdate result source) run).2
      (loader.attempted around noUpdate (fun key => (loader.store.found key run.state).1)
        source) := by
  have own := loader.document_attempts around noUpdate source run
  simp only [add, on_bind, on_outcome]
  cases (on (loader.document around noUpdate source) run).1 with
  | ok part => exact own
  | error failure =>
      cases failure with
      | reported error =>
          have told := own.append (.note .warning
            s!"Failed to load rules from {source.location}: {error.text}" _ rfl)
          rwa [List.append_nil] at told
      | breakdown cause => exact own

/-- Of sources with keys of their own, each is tried for as its entry asks for it that is held at
the start. -/
theorem sources_attempts (confined : loader.Confined entries paths world)
    (distinct : (sources.map Source.key).Nodup) {run : Run σ} (inside : world run.state)
    {start total : LoadResult}
    (returned : (on (sources.foldlM (loader.add around noUpdate) start) run).1 = .ok total) :
    Attempts loader.remote around.network run
      (on (sources.foldlM (loader.add around noUpdate) start) run).2
      (sources.flatMap (loader.attempted around noUpdate (entries run.state))) := by
  induction sources generalizing start run with
  | nil => exact .refl run
  | cons source rest ih =>
      obtain ⟨fresh, restDistinct⟩ := List.nodup_cons.mp distinct
      obtain ⟨log, added⟩ := loader.add_on around noUpdate start source run
      have own := loader.add_attempts around noUpdate start source run
      have next : world (on (loader.add around noUpdate start source) run).2.state := by
        rw [added]
        exact confined.loaded_world around noUpdate inside
      have spared : ∀ other ∈ rest,
          entries (on (loader.add around noUpdate start source) run).2.state other.key =
            entries run.state other.key := by
        intro other member
        rw [added]
        exact confined.loaded_other around noUpdate inside fun same =>
          fresh (List.mem_map.mpr ⟨other, member, same⟩)
      have seen : loader.attempted around noUpdate
          (fun key => (loader.store.found key run.state).1) source =
            loader.attempted around noUpdate (entries run.state) source :=
        attempted_congr (confined.found_result source.key run.state inside)
      rw [seen] at own
      simp only [List.foldlM_cons, on_bind] at returned ⊢
      generalize on (loader.add around noUpdate start source) run = left
        at own next spared returned ⊢
      obtain ⟨ended, after⟩ := left
      cases ended with
      | error cause => cases returned
      | ok part =>
          have following := ih restDistinct next returned
          rw [attempted_flatMap_congr spared] at following
          exact own.append following

theorem base_attempts (confined : loader.Confined entries paths world) {language : String}
    {framework : Option String} {run after : Run σ} (inside : world run.state)
    (distinct : ∀ sources, Source.chain loader.catalog (loader.files run.state) language framework =
      .ok sources → (sources.map Source.key).Nodup) {total : LoadResult}
    (returned : on (loader.base around language framework noUpdate) run = (.ok total, after)) :
    ∃ sources, Source.chain loader.catalog (loader.files run.state) language framework =
        .ok sources ∧
      Attempts loader.remote around.network run after
        (sources.flatMap (loader.attempted around noUpdate (entries run.state))) := by
  simp only [base, on_bind, on_get] at returned
  cases chain : Source.chain loader.catalog (loader.files run.state) language framework with
  | error error => simp [chain] at returned
  | ok sources =>
      simp only [chain] at returned
      have attempts := sources_attempts confined (distinct sources chain) inside
        (congrArg Prod.fst returned)
      rw [returned] at attempts
      exact ⟨sources, rfl, attempts⟩

theorem project_attempts (loader : Loader σ) (network : Network) (folder : Path) (run : Run σ) :
    Attempts loader.remote network run (on (loader.project folder) run).2 [] := by
  simp only [project, on_bind, on_get]
  cases (loader.files run.state).pathExists (projectFile folder) with
  | error error => exact .refl run
  | ok there =>
      cases there with
      | false => exact .refl run
      | true =>
          match readFile (loader.files run.state) (projectFile folder) with
          | .ok document => exact .refl run
          | .error (.reported error) => exact .note .warning _ run rfl
          | .error (.breakdown cause) => exact .refl run

end Loader

theorem Remote.urlFor_of_head {path : String} (head : '/' ∉ path.toList.head?) (baseUrl : String) :
    urlFor baseUrl path = Address.withoutEndSlashes baseUrl ++ "/" ++ path := by
  have whole : Text.trimStart (· == '/') path.toList = path.toList := by
    cases chars : path.toList with
    | nil => rfl
    | cons c rest =>
        have other : c ≠ '/' := by simpa [chars, eq_comm] using head
        simp [Text.trimStart, other]
  rw [urlFor, whole, String.ofList_toList]

namespace Source

variable {catalog : Catalog} {files : Files} {name language : String} {framework : Option String}
  {sources : List Source} {source : Source}

theorem find_url (found : find catalog files name = .ok source) :
    source.url = Address.withoutEndSlashes catalog.baseUrl ++ "/" ++ source.remotePath := by
  obtain ⟨isBuiltin, -, made⟩ := except_bind_eq_ok.mp found
  cases made
  rfl

theorem chain_url (resolved : chain catalog files language framework = .ok sources)
    (member : source ∈ sources) :
    source.url = Address.withoutEndSlashes catalog.baseUrl ++ "/" ++ source.remotePath := by
  obtain ⟨name, -, found⟩ := exists_name_of_mem resolved member
  exact find_url found

/-- The catalog and the cache have a source at the same address. -/
theorem urlFor_remotePath (plain : IsPlainName language)
    (resolved : chain catalog files language framework = .ok sources) (member : source ∈ sources) :
    Remote.urlFor catalog.baseUrl source.remotePath = source.url := by
  obtain ⟨name, named, found⟩ := exists_name_of_mem resolved member
  have head : '/' ∉ source.remotePath.toList.head? := by
    rw [find_remotePath found]
    simp only [chainNames, List.mem_append] at named
    rcases named with (general | own) | below
    · split at general
      · cases general
      · rw [List.mem_singleton.mp general]
        decide
    · rw [List.mem_singleton.mp own]
      exact fun first => plain.document.1 (List.mem_of_mem_head? first)
    · split at below
      · cases below
      · cases below
      · rw [List.mem_singleton.mp below]
        simp [frameworksFolder]
  rw [Remote.urlFor_of_head head, find_url found]

theorem chain_urls_nodup (resolved : chain catalog files language framework = .ok sources)
    (distinct : (sources.map key).Nodup) : (sources.map url).Nodup := by
  refine List.pairwise_map.mpr ((List.pairwise_map.mp distinct).imp_of_mem ?_)
  intro first second isFirst isSecond different same
  rw [chain_url resolved isFirst, chain_url resolved isSecond, String.append_right_inj] at same
  exact different (congrArg CacheKey.ofPath same)

/-- No built-in file is there for the source, and the cache holds no document that is fresh. -/
def isAskedFor (freshFor now : Float) (held : CacheKey → Option CacheEntry) (source : Source) :
    Bool :=
  source.localPath.isNone && !(held source.key).any fun entry => entry.age now ≤ freshFor

end Source

theorem Loader.attempted_eq {loader : Loader σ} (around : Surroundings) (noUpdate : Bool)
    (held : CacheKey → Option CacheEntry) {source : Source}
    (url : Remote.urlFor loader.remote.baseUrl source.remotePath = source.url) :
    loader.attempted around noUpdate held source =
      if !noUpdate && source.isAskedFor loader.remote.freshFor around.now held then [source.url]
      else [] := by
  unfold attempted Source.isAskedFor
  rw [Remote.attempted_eq, url]
  cases source.localPath with
  | some path => cases noUpdate <;> rfl
  | none => rfl

theorem flatMap_ite_singleton {α β : Type} (wanted : α → Bool) (change : α → β) (items : List α) :
    (items.flatMap fun item => if wanted item then [change item] else []) =
      (items.filter wanted).map change := by
  induction items with
  | nil => rfl
  | cons item rest ih => cases kept : wanted item <;> simp [kept, ih]

end Rulebook
