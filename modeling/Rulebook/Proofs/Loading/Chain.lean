import Rulebook.Proofs.Loading.Source

/-!
Loading a chain of sources. The sources share the store, but each has a key of its own in it, so
that what one of them yields is what it would yield alone. The rules, the errors and the stale
sources are then those of the single sources, put together in the order of the chain.
-/

namespace Rulebook

open Running

variable {σ τ : Type}

namespace LoadResult

/-- What the sources yield, given what each of them yields alone. -/
def combined (sources : List Source) (alone : Source → Except SourceFailure (Document × Bool)) :
    LoadResult where
  rules := sources.flatMap fun source => match alone source with
    | .ok (document, _) => document.rules
    | .error _ => []
  errors := sources.filterMap fun source => match alone source with
    | .error (.reported error) => some error
    | _ => none
  staleSources := sources.filterMap fun source => match alone source with
    | .ok (_, true) => some source.location
    | _ => none

variable {source : Source} {alone : Source → Except SourceFailure (Document × Bool)}

theorem contribution_eq_combined (alone : Source → Except SourceFailure (Document × Bool))
    (reported : ∀ cause, alone source ≠ .error (.breakdown cause)) :
    contribution source (alone source) = .ok (combined [source] alone) := by
  match ended : alone source with
  | .ok (document, true) | .ok (document, false) => simp [contribution, combined, ended]
  | .error (.reported error) => simp [contribution, combined, ended]
  | .error (.breakdown cause) => exact absurd ended (reported cause)

theorem followedBy_assoc (first second third : LoadResult) :
    (first.followedBy second).followedBy third = first.followedBy (second.followedBy third) := by
  simp [followedBy]

theorem combined_cons (source : Source) (rest : List Source) :
    combined (source :: rest) alone =
      (combined [source] alone).followedBy (combined rest alone) := by
  have split : source :: rest = [source] ++ rest := rfl
  simp only [split, combined, followedBy, List.flatMap_append, List.filterMap_append]

theorem combined_congr {sources : List Source}
    {first second : Source → Except SourceFailure (Document × Bool)}
    (same : ∀ source ∈ sources, first source = second source) :
    combined sources first = combined sources second := by
  induction sources with
  | nil => rfl
  | cons source rest ih =>
      obtain ⟨own, others⟩ := List.forall_mem_cons.mp same
      rw [combined_cons source rest, combined_cons source rest, ih others]
      simp only [combined, List.flatMap_cons, List.flatMap_nil, List.filterMap_cons,
        List.filterMap_nil, own]

end LoadResult

namespace Loader

variable {loader : Loader σ} {around : Surroundings} {noUpdate : Bool}
  {entries : σ → CacheKey → Option CacheEntry} {sources : List Source}
  {alone : Source → Except SourceFailure (Document × Bool)}

/-- What the loading of sources comes to, the state left, and what was asked for. -/
structure Gathered (σ : Type) where
  result : Except Breakdown LoadResult
  state : σ
  requests : List Request := []

/-- Loads sources one after the other until one breaks down. -/
def gathered (loader : Loader σ) (around : Surroundings) (noUpdate : Bool) :
    List Source → σ → Gathered σ
  | [], state => { result := .ok {}, state }
  | source :: rest, state =>
      let own := loader.loaded around noUpdate source state
      match LoadResult.contribution source own.result with
      | .error cause => ⟨.error cause, own.state, own.requests⟩
      | .ok part =>
          let others := gathered loader around noUpdate rest own.state
          ⟨others.result.map part.followedBy, others.state, own.requests ++ others.requests⟩

theorem sources_on (loader : Loader σ) (around : Surroundings) (noUpdate : Bool)
    (sources : List Source) (result : LoadResult) (run : Run σ) :
    let gathered := loader.gathered around noUpdate sources run.state
    ∃ log, on (sources.foldlM (loader.add around noUpdate) result) run =
      (gathered.result.map result.followedBy,
        ⟨gathered.state, log, run.requests ++ gathered.requests⟩) := by
  induction sources generalizing result run with
  | nil => exact ⟨run.log, by simp [gathered, Except.map, LoadResult.followedBy]⟩
  | cons source rest ih =>
      obtain ⟨log, added⟩ := loader.add_on around noUpdate result source run
      simp only [List.foldlM_cons, on_bind, added, gathered]
      generalize loader.loaded around noUpdate source run.state = own
      cases LoadResult.contribution source own.result with
      | error cause => exact ⟨log, rfl⟩
      | ok part =>
          obtain ⟨final, ended⟩ := ih (result.followedBy part)
            ⟨own.state, log, run.requests ++ own.requests⟩
          refine ⟨final, ?_⟩
          simp only [Except.map, ended, List.append_assoc]
          cases (gathered loader around noUpdate rest own.state).result with
          | error cause => rfl
          | ok others => simp only [LoadResult.followedBy_assoc]

section Confined

variable {paths : List Path} {world : σ → Prop} {state : σ}

/-- The sources of a chain, one after the other, yield what each of them yields alone. -/
theorem gathered_alone (confined : loader.Confined entries paths world)
    (distinct : (sources.map Source.key).Nodup)
    (consulted : ∀ source ∈ sources, ∀ path ∈ source.localPath, path ∈ paths)
    (inside : world state)
    (reported : ∀ source ∈ sources, ∀ cause,
      (loader.loaded around noUpdate source state).result ≠ .error (.breakdown cause)) :
    let gathered := loader.gathered around noUpdate sources state
    gathered.result = .ok (.combined sources fun source =>
        (loader.loaded around noUpdate source state).result) ∧
      gathered.requests = sources.flatMap fun source =>
        (loader.loaded around noUpdate source state).requests := by
  induction sources generalizing state with
  | nil => exact ⟨rfl, rfl⟩
  | cons source rest ih =>
      obtain ⟨fresh, restDistinct⟩ := List.nodup_cons.mp distinct
      obtain ⟨-, restConsulted⟩ := List.forall_mem_cons.mp consulted
      obtain ⟨ownReported, restReported⟩ := List.forall_mem_cons.mp reported
      have own := LoadResult.contribution_eq_combined
        (fun source => (loader.loaded around noUpdate source state).result) ownReported
      have next : world (loader.loaded around noUpdate source state).state :=
        confined.loaded_world around noUpdate inside
      -- What comes first leaves the others what they are loaded from.
      have restAlone : ∀ other ∈ rest, _ := fun other member =>
        confined.loaded_after around noUpdate inside (restConsulted other member)
          fun same => fresh (List.mem_map.mpr ⟨other, member, same⟩)
      obtain ⟨result, requests⟩ := ih restDistinct restConsulted next
        fun other member cause => (restAlone other member).1 ▸ restReported other member cause
      refine ⟨?_, ?_⟩
      · have same := LoadResult.combined_congr fun other member => (restAlone other member).1
        simp only [gathered, own, result, Except.map, same, ← LoadResult.combined_cons]
      · have same := List.flatMap_congr fun other member => (restAlone other member).2
        simp only [gathered, own, requests, same, List.flatMap_cons]

theorem gathered_reported (confined : loader.Confined entries paths world)
    (distinct : (sources.map Source.key).Nodup)
    (consulted : ∀ source ∈ sources, ∀ path ∈ source.localPath, path ∈ paths)
    (inside : world state) {total : LoadResult}
    (returned : (loader.gathered around noUpdate sources state).result = .ok total) :
    ∀ source ∈ sources, ∀ cause,
      (loader.loaded around noUpdate source state).result ≠ .error (.breakdown cause) := by
  induction sources generalizing state total with
  | nil => exact fun _ member => absurd member List.not_mem_nil
  | cons source rest ih =>
      obtain ⟨fresh, restDistinct⟩ := List.nodup_cons.mp distinct
      obtain ⟨-, restConsulted⟩ := List.forall_mem_cons.mp consulted
      refine List.forall_mem_cons.mpr ⟨fun cause broken => ?_, fun other member cause => ?_⟩
      · simp [gathered, broken, LoadResult.contribution] at returned
      · have different : other.key ≠ source.key := fun same =>
          fresh (List.mem_map.mpr ⟨other, member, same⟩)
        have alone := (confined.loaded_after around noUpdate inside (restConsulted other member)
          different).1
        cases own : LoadResult.contribution source
            (loader.loaded around noUpdate source state).result with
        | error broken => simp [gathered, own] at returned
        | ok part =>
            simp only [gathered, own] at returned
            obtain ⟨others, restReturned, -⟩ := except_map_eq_ok.mp returned
            rw [← alone]
            exact ih restDistinct restConsulted (confined.loaded_world around noUpdate inside)
              restReturned other member cause

theorem gathered_world (confined : loader.Confined entries paths world) (inside : world state) :
    world (loader.gathered around noUpdate sources state).state := by
  induction sources generalizing state with
  | nil => exact inside
  | cons source rest ih =>
      have next : world (loader.loaded around noUpdate source state).state :=
        confined.loaded_world around noUpdate inside
      simp only [gathered]
      cases LoadResult.contribution source
          (loader.loaded around noUpdate source state).result with
      | error cause => exact next
      | ok part => exact ih next

/-- What the sources leave under other keys is what was there before. -/
theorem gathered_other (confined : loader.Confined entries paths world) (inside : world state)
    {key : CacheKey} (different : key ∉ sources.map Source.key) :
    entries (loader.gathered around noUpdate sources state).state key = entries state key := by
  induction sources generalizing state with
  | nil => rfl
  | cons source rest ih =>
      obtain ⟨other, restDifferent⟩ := not_or.mp (List.mem_cons.not.mp different)
      have spared := confined.loaded_other around noUpdate inside other
      simp only [gathered]
      cases LoadResult.contribution source
          (loader.loaded around noUpdate source state).result with
      | error cause => exact spared
      | ok part =>
          exact (ih (confined.loaded_world around noUpdate inside) restDifferent).trans spared

/-- What the sources leave under the key of one of them is what its own loading has left. Until then
nothing has changed under its key. -/
theorem gathered_own (confined : loader.Confined entries paths world)
    (distinct : (sources.map Source.key).Nodup) (inside : world state) {total : LoadResult}
    (returned : (loader.gathered around noUpdate sources state).result = .ok total) :
    ∀ source ∈ sources, ∃ moment, world moment ∧
      entries moment source.key = entries state source.key ∧
      entries (loader.gathered around noUpdate sources state).state source.key =
        entries (loader.loaded around noUpdate source moment).state source.key := by
  induction sources generalizing state total with
  | nil => exact fun _ member => absurd member List.not_mem_nil
  | cons source rest ih =>
      obtain ⟨fresh, restDistinct⟩ := List.nodup_cons.mp distinct
      cases own : LoadResult.contribution source
          (loader.loaded around noUpdate source state).result with
      | error broken => simp [gathered, own] at returned
      | ok part =>
          have next : world (loader.loaded around noUpdate source state).state :=
            confined.loaded_world around noUpdate inside
          simp only [gathered, own] at returned ⊢
          obtain ⟨others, restReturned, -⟩ := except_map_eq_ok.mp returned
          refine List.forall_mem_cons.mpr ⟨⟨state, inside, rfl, ?_⟩, fun other member => ?_⟩
          · exact gathered_other confined next fresh
          · have different : other.key ≠ source.key := fun same =>
              fresh (List.mem_map.mpr ⟨other, member, same⟩)
            obtain ⟨moment, within, before, after⟩ := ih restDistinct next restReturned other member
            exact ⟨moment, within,
              before.trans (confined.loaded_other around noUpdate inside different), after⟩

end Confined

/-- The errors of the sources name those that are not loaded, in the order of the sources. -/
theorem combined_errors_location
    (reported : ∀ source ∈ sources, ∀ cause, alone source ≠ .error (.breakdown cause))
    (named : ∀ source ∈ sources, ∀ error, alone source = .error (.reported error) →
      error.location = source.location) :
    (LoadResult.combined sources alone).errors.map LoadError.location =
      (sources.filter fun source => !(alone source).isOk).map Source.location := by
  induction sources with
  | nil => rfl
  | cons source rest ih =>
      have others := ih (fun other member => reported other (by simp [member]))
        (fun other member => named other (by simp [member]))
      simp only [LoadResult.combined] at others ⊢
      match ended : alone source with
      | .ok (document, stale) => simp [ended, Except.isOk, Except.toBool, others]
      | .error (.reported error) =>
          have own := named source (by simp) error ended
          simp [ended, Except.isOk, Except.toBool, others, own]
      | .error (.breakdown cause) => exact absurd ended (reported source (by simp) cause)

/-- The chain of sources as a whole. -/
theorem base_on (steady : loader.Steady entries) {language : String} {framework : Option String}
    (languagePlain : IsPlainName language) (frameworkPlain : ∀ name ∈ framework, IsPlainName name)
    (run : Run σ)
    (resolved : Source.chain loader.catalog (loader.files run.state) language framework =
      .ok sources)
    (reported : ∀ source ∈ sources, ∀ cause, alone source ≠ .error (.breakdown cause))
    (yielded : ∀ source ∈ sources,
      (loader.loaded around noUpdate source run.state).result = alone source) :
    ∃ after, on (loader.base around language framework noUpdate) run =
      (.ok (.combined sources alone), after) := by
  have distinct := Source.chain_keys_nodup languagePlain frameworkPlain resolved
  have confined := steady.confined (loader.files run.state)
    (sources.flatMap fun source => source.localPath.toList)
  obtain ⟨log, ended⟩ := loader.sources_on around noUpdate sources {} run
  have gathered := (gathered_alone confined distinct
    (fun source member path held => List.mem_flatMap.mpr ⟨source, member, by simpa using held⟩) rfl
    fun source member cause => yielded source member ▸ reported source member cause).1
  rw [gathered, LoadResult.combined_congr yielded] at ended
  simp only [base, on_bind, on_get, resolved]
  exact ⟨_, ended⟩

/-- No source affects what the others yield. What is loaded for a chain is what its sources yield
alone, put together in the order of the chain, with one error that names it for each source that is
not loaded. In another world, where for all sources but one what they are loaded from is the same,
only the part of that one source is another. The store may be one that works or one that never
does (`Works.keepsApart`, `Fails.keepsApart`). -/
theorem base_eq_combined (catalog : Catalog) (remote : Remote) {store : CacheStore τ}
    {entries : τ → CacheKey → Option CacheEntry} (apart : store.KeepsApart entries)
    {language : String} {framework : Option String} (languagePlain : IsPlainName language)
    (frameworkPlain : ∀ name ∈ framework, IsPlainName name) (around : Surroundings)
    (noUpdate : Bool) (run : Run (Files × τ)) {sources : List Source}
    (resolved : Source.chain catalog run.state.1 language framework = .ok sources)
    (reported : ∀ source ∈ sources, ∀ cause,
      (on ((beside catalog remote store).document around noUpdate source) run).1 ≠
        .error (.breakdown cause)) :
    let loader := beside catalog remote store
    let alone := fun source => (on (loader.document around noUpdate source) run).1
    let result := LoadResult.combined sources alone
    (∃ after, on (loader.base around language framework noUpdate) run = (.ok result, after)) ∧
    result.errors.map LoadError.location =
      (sources.filter fun source => !(alone source).isOk).map Source.location ∧
    ∀ (changed : Source) (laterAround : Surroundings) (later : Run (Files × τ)),
      Source.chain catalog later.state.1 language framework = .ok sources →
      (∀ source ∈ sources, source ≠ changed →
        loader.SameDocument (fun state => entries state.2) source (around, run.state)
          (laterAround, later.state)) →
      let again := (on (loader.document laterAround noUpdate changed) later).1
      (∀ cause, again ≠ .error (.breakdown cause)) →
      ∃ after, on (loader.base laterAround language framework noUpdate) later =
        (.ok (.combined sources (Function.update alone changed again)), after) := by
  intro loader alone result
  have steady : loader.Steady fun state => entries state.2 := beside_steady catalog remote apart
  have yields (world : Surroundings) (start : Run (Files × τ)) (source : Source) :
      (on (loader.document world noUpdate source) start).1 =
        (loader.loaded world noUpdate source start.state).result := by
    obtain ⟨log, ran⟩ := loader.document_on world noUpdate source start
    rw [ran]
  refine ⟨?_, ?_, ?_⟩
  · exact base_on steady languagePlain frameworkPlain run resolved reported
      fun source _ => (yields around run source).symm
  · refine combined_errors_location reported fun source _ error failed => ?_
    exact loaded_error_location ((yields around run source).symm.trans failed)
  · intro changed laterAround later resolvedAgain same again reportedAgain
    have yieldedAgain : ∀ source ∈ sources,
        (loader.loaded laterAround noUpdate source later.state).result =
          Function.update alone changed again source := by
      intro source member
      by_cases isChanged : source = changed
      · subst isChanged
        rw [Function.update_self]
        exact (yields laterAround later source).symm
      · rw [Function.update_of_ne isChanged]
        exact (loaded_congr steady (same source member isChanged)).symm.trans
          (yields around run source).symm
    refine base_on steady languagePlain frameworkPlain later resolvedAgain ?_ yieldedAgain
    intro source member cause
    by_cases isChanged : source = changed
    · subst isChanged
      rw [Function.update_self]
      exact reportedAgain cause
    · rw [Function.update_of_ne isChanged]
      exact reported source member cause

end Loader

-- A chain whose first source is a broken file and is repaired, whose second is cached but not
-- fresh and cannot be downloaded, and whose third is downloaded.

namespace Loader.Sample

def files (general : String) : Files :=
  ⟨[(["rules"], .directory), (["rules", "general.yml"], .file general.toUTF8.toList)], []⟩

def cached : CacheTable := [({ topic := "python" }, ⟨"rules:\n- id: cached", 1⟩)]

def around : Surroundings where
  network address :=
    if address = "http://rules/frameworks/web.yml" then
      .response 200 "rules:\n- id: fetched".toUTF8.toList
    else .failure "timeout" ""
  now := 100

def catalog : Catalog := ⟨⟨"/", ["rules"]⟩, "http://rules"⟩

def remote : Remote := ⟨"http://rules", 10, .whole 1⟩

def loader : Loader (Files × CacheTable) := beside catalog remote .memory

def general : Source :=
  ⟨"general", "general.yml", "http://rules/general.yml", some ⟨"/", ["rules", "general.yml"]⟩⟩

def sources : List Source :=
  [general, ⟨"python", "python.yml", "http://rules/python.yml", none⟩,
    ⟨"frameworks/web", "frameworks/web.yml", "http://rules/frameworks/web.yml", none⟩]

def broken : Run (Files × CacheTable) := { state := (files "rules", cached) }

def repaired : Run (Files × CacheTable) := { state := (files "rules:\n- id: repaired", cached) }

/-- What a source yields alone. -/
def alone (run : Run (Files × CacheTable)) (source : Source) :
    Except SourceFailure (Document × Bool) :=
  (on (loader.document around false source) run).1

def breaksDown {α : Type} : Except SourceFailure α → Bool
  | .error (.breakdown _) => true
  | _ => false

theorem alone_reported : ∀ run ∈ [broken, repaired], ∀ source ∈ sources, ∀ cause,
    alone run source ≠ .error (.breakdown cause) := by
  have checked : [broken, repaired].all fun run => sources.all fun source =>
      !breaksDown (alone run source) := by decide +kernel
  intro run ran source member cause failed
  have reported := List.all_eq_true.mp (List.all_eq_true.mp checked run ran) source member
  simp [failed, breaksDown] at reported

theorem chain_sources : ∀ run ∈ [broken, repaired],
    Source.chain catalog run.state.1 "python" (some "web") = .ok sources := by
  intro run ran
  simp only [List.mem_cons, List.not_mem_nil, or_false] at ran
  rcases ran with rfl | rfl <;> rfl

theorem general_changed : ∀ source ∈ sources, source ≠ general →
    loader.SameDocument (fun state => state.2.find?) source (around, broken.state)
      (around, repaired.state) := by
  intro source member different
  simp only [sources, List.mem_cons, List.not_mem_nil, or_false] at member
  rcases member with rfl | rfl | rfl
  · exact absurd rfl different
  · exact ⟨rfl, rfl, rfl⟩
  · exact ⟨rfl, rfl, rfl⟩

/-- What is loaded while the first file is broken, and once it is repaired. -/
theorem base_of_mixed_chain :
    (∃ result after, on (loader.base around "python" (some "web") false) broken =
        (.ok result, after) ∧ result.rules.map Rule.id = ["cached", "fetched"] ∧
      result.errors.map LoadError.location = ["/rules/general.yml"] ∧
      result.staleSources = ["http://rules/python.yml"]) ∧
    ∃ result after, on (loader.base around "python" (some "web") false) repaired =
        (.ok result, after) ∧
      result.rules.map Rule.id = ["repaired", "cached", "fetched"] ∧
      result.errors.map LoadError.location = [] := by
  obtain ⟨⟨after, ended⟩, -, again⟩ := base_eq_combined catalog remote
    CacheStore.memory_works.keepsApart (by decide) (by decide) around false broken
    (chain_sources broken (by simp)) (alone_reported broken (by simp))
  obtain ⟨later, endedAgain⟩ := again general around repaired (chain_sources repaired (by simp))
    general_changed (alone_reported repaired (by simp) general (by simp [sources]))
  refine ⟨⟨_, after, ended, ?_⟩, ⟨_, later, endedAgain, ?_⟩⟩
  · decide +kernel
  · decide +kernel

end Loader.Sample

end Rulebook
