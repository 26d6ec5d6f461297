import Rulebook.Proofs.Loading.Chain
import Rulebook.Proofs.Manager.Query

namespace Rulebook

open Running

variable {σ : Type}

namespace Source

variable {catalog : Catalog} {files : Files} {name : String} {source : Source}

theorem find_localPath (found : find catalog files name = .ok source) :
    ∀ path ∈ source.localPath, path = catalog.builtinFolder / (name ++ ".yml") := by
  obtain ⟨isBuiltin, -, made⟩ := except_bind_eq_ok.mp found
  cases made
  intro path held
  cases isBuiltin with
  | true => simpa using held.symm
  | false => simp at held

theorem mapM_find_localPath {names : List String} {sources : List Source}
    (found : names.mapM (find catalog files) = .ok sources) :
    ∀ source ∈ sources, ∀ path ∈ source.localPath,
      path ∈ names.map fun name => catalog.builtinFolder / (name ++ ".yml") := by
  induction names generalizing sources with
  | nil =>
      cases found
      simp
  | cons name rest ih =>
      rw [List.mapM_cons, except_bind_eq_ok] at found
      obtain ⟨source, own, found⟩ := found
      obtain ⟨others, following, made⟩ := except_bind_eq_ok.mp found
      cases made
      refine List.forall_mem_cons.mpr ⟨fun path held => ?_, fun other member path held => ?_⟩
      · exact List.mem_cons.mpr (.inl (find_localPath own path held))
      · exact List.mem_cons_of_mem _ (ih following other member path held)

theorem mapM_find_congr {again : Files} {names : List String}
    (same : ∀ path ∈ names.map fun name => catalog.builtinFolder / (name ++ ".yml"),
      files.isFile path = again.isFile path) :
    names.mapM (find catalog files) = names.mapM (find catalog again) := by
  induction names with
  | nil => rfl
  | cons name rest ih =>
      obtain ⟨own, others⟩ := List.forall_mem_cons.mp same
      have found : find catalog files name = find catalog again name := by
        simp only [find, own]
      rw [List.mapM_cons, List.mapM_cons, found, ih others]

theorem chainNames_filter (language : String) (framework : Option String) :
    chainNames language (framework.filter (· ≠ "")) = chainNames language framework := by
  cases framework with
  | none => rfl
  | some name => by_cases blank : name = "" <;> simp [chainNames, Option.filter, blank]

end Source

namespace RuleQuery

/-- There is no slash in the names of the language and of the framework. -/
structure Plain (query : RuleQuery) : Prop where
  language : ∀ name ∈ query.language, '/' ∉ name.toList
  framework : ∀ name ∈ query.framework, '/' ∉ name.toList

/-- The files that a query is answered from, if they are there. -/
def paths (catalog : Catalog) (query : RuleQuery) : List Path :=
  query.consulted.sources.map (fun name => catalog.builtinFolder / (name ++ ".yml")) ++
    query.consulted.project.toList

/-- What the base rules and those of the project make together for a query. -/
def assembled (query : RuleQuery) (base project : LoadResult) : LoadResult where
  rules := Rule.merge base.rules project.rules query.overrides
  errors := base.errors ++ project.errors
  staleSources := base.staleSources ++ project.staleSources

theorem assembled_congr (query : RuleQuery) (project : LoadResult) {first second : LoadResult}
    (rules : first.rules = second.rules) (errors : first.errors = second.errors) :
    (query.assembled first project).rules = (query.assembled second project).rules ∧
      (query.assembled first project).errors = (query.assembled second project).errors := by
  simp only [assembled, rules, errors, and_self]

theorem languageOrGeneral_ne_empty (query : RuleQuery) : query.languageOrGeneral ≠ "" := by
  unfold languageOrGeneral
  split
  · decide
  · decide
  · assumption

theorem Plain.isPlainName {query : RuleQuery} (plain : query.Plain) :
    IsPlainName query.languageOrGeneral ∧ ∀ name ∈ query.framework?, IsPlainName name := by
  refine ⟨⟨query.languageOrGeneral_ne_empty, ?_⟩, fun name held => ?_⟩
  · unfold languageOrGeneral
    split
    · decide
    · decide
    · exact plain.language _ ‹_›
  · obtain ⟨named, nonempty⟩ := Option.filter_eq_some_iff.mp held
    exact ⟨of_decide_eq_true nonempty, plain.framework name named⟩

theorem Plain.keys_nodup {query : RuleQuery} (plain : query.Plain) {catalog : Catalog}
    {files : Files} {sources : List Source}
    (resolved : Source.chain catalog files query.languageOrGeneral query.framework = .ok sources) :
    (sources.map Source.key).Nodup := by
  obtain ⟨language, framework⟩ := plain.isPlainName
  have filtered : Source.chain catalog files query.languageOrGeneral query.framework? =
      .ok sources := by
    rw [Source.chain, framework?, Source.chainNames_filter]
    exact resolved
  exact Source.chain_keys_nodup language framework filtered

end RuleQuery

namespace Loader

/-- What a project adds, told from the files. -/
def projectPart (files : Files) : Option Path → Except Breakdown LoadResult
  | none => .ok {}
  | some folder =>
      let path := projectFile folder
      match files.pathExists path with
      | .error error => .error (.file error)
      | .ok false => .ok {}
      | .ok true => match readFile files path with
          | .ok document => .ok { rules := document.rules }
          | .error (.reported error) => .ok { errors := [error] }
          | .error (.breakdown cause) => .error cause

theorem project_on (loader : Loader σ) (folder : Path) (run : Run σ) :
    ∃ log, on (loader.project folder) run =
      (projectPart (loader.files run.state) (some folder), { run with log }) := by
  simp only [project, on_bind, on_get, projectPart]
  cases (loader.files run.state).pathExists (projectFile folder) with
  | error error => exact ⟨run.log, rfl⟩
  | ok there =>
      cases there with
      | false => exact ⟨run.log, rfl⟩
      | true =>
          simp only
          cases readFile (loader.files run.state) (projectFile folder) with
          | ok document => exact ⟨run.log, rfl⟩
          | error failure =>
              cases failure with
              | reported error => exact ⟨_, rfl⟩
              | breakdown cause => exact ⟨run.log, rfl⟩

/-- The sources for a query, and what its project adds. -/
structure Answers (loader : Loader σ) (query : RuleQuery) (state : σ) (sources : List Source)
    (project : LoadResult) : Prop where
  chain : Source.chain loader.catalog (loader.files state) query.languageOrGeneral
    query.framework = .ok sources
  project : projectPart (loader.files state) query.project = .ok project

end Loader

namespace Manager

variable {loader : Loader σ} {around : Surroundings} {query : RuleQuery}

theorem load_on (loader : Loader σ) (around : Surroundings) (query : RuleQuery) (run : Run σ) :
    ∃ log, on (load loader around query) run =
      match Source.chain loader.catalog (loader.files run.state) query.languageOrGeneral
        query.framework with
      | .error error => (.error (.file error), run)
      | .ok sources =>
          let gathered := loader.gathered around query.noUpdate sources run.state
          (gathered.result.bind fun base =>
            (Loader.projectPart (loader.files gathered.state) query.project).map
              (query.assembled base),
            ⟨gathered.state, log, run.requests ++ gathered.requests⟩) := by
  simp only [load, Loader.base, on_bind, on_get]
  cases Source.chain loader.catalog (loader.files run.state) query.languageOrGeneral
      query.framework with
  | error error => exact ⟨run.log, rfl⟩
  | ok sources =>
      obtain ⟨log, gathering⟩ := loader.sources_on around query.noUpdate sources {} run
      simp only [gathering]
      generalize loader.gathered around query.noUpdate sources run.state = gathered
      cases gathered.result with
      | error cause => exact ⟨log, rfl⟩
      | ok base =>
          cases query.project with
          | none => exact ⟨log, rfl⟩
          | some folder =>
              obtain ⟨final, added⟩ := loader.project_on folder
                ⟨gathered.state, log, run.requests ++ gathered.requests⟩
              refine ⟨final, ?_⟩
              simp only [Except.map, on_bind, added, Except.bind]
              cases Loader.projectPart (loader.files gathered.state) (some folder) <;> rfl

end Manager

section Confined

variable {loader : Loader σ} {around : Surroundings} {query : RuleQuery}
  {entries : σ → CacheKey → Option CacheEntry} {world : σ → Prop} {sources : List Source}
  {project : LoadResult} {first second : σ}

theorem Loader.Answers.consulted (answers : loader.Answers query first sources project) :
    ∀ source ∈ sources, ∀ path ∈ source.localPath, path ∈ query.paths loader.catalog :=
  fun source member path held => List.mem_append_left _
    (Source.mapM_find_localPath answers.chain source member path held)

theorem Loader.Confined.projectPart_eq
    (confined : loader.Confined entries (query.paths loader.catalog) world) (inside : world first)
    (again : world second) :
    Loader.projectPart (loader.files first) query.project =
      Loader.projectPart (loader.files second) query.project := by
  cases named : query.project with
  | none => rfl
  | some folder =>
      have consulted : Loader.projectFile folder ∈ query.paths loader.catalog :=
        List.mem_append_right _ (by simp [RuleQuery.consulted, named])
      have seen := confined.glance first second inside again _ consulted
      have there := congrArg (·.2.1) seen
      have text := congrArg (·.2.2) seen
      simp only [Files.glance] at there text
      simp only [Loader.projectPart, Loader.readFile, there, text]

/-- A query has the same sources in all states of a world, and its project adds the same. -/
theorem Loader.Confined.answers
    (confined : loader.Confined entries (query.paths loader.catalog) world)
    (inside : world first) (again : world second)
    (answers : loader.Answers query first sources project) :
    loader.Answers query second sources project := by
  refine ⟨?_, (confined.projectPart_eq again inside).trans answers.project⟩
  rw [← answers.chain, Source.chain, Source.chain]
  refine (Source.mapM_find_congr fun path named => ?_).symm
  exact congrArg Prod.fst
    (confined.glance first second inside again path (List.mem_append_left _ named))

namespace Manager

theorem load_world (confined : loader.Confined entries (query.paths loader.catalog) world)
    {run : Run σ} (inside : world run.state) :
    world (on (load loader around query) run).2.state := by
  obtain ⟨log, loading⟩ := load_on loader around query run
  rw [loading]
  cases Source.chain loader.catalog (loader.files run.state) query.languageOrGeneral
      query.framework with
  | error error => exact inside
  | ok sources => exact Loader.gathered_world confined inside

/-- The sources of a query that is loaded do not break down. Each of them yields what it yields
alone, and leaves its own entry. -/
theorem load_returned (confined : loader.Confined entries (query.paths loader.catalog) world)
    (plain : query.Plain) {run after : Run σ} (inside : world run.state) {result : LoadResult}
    (returned : on (load loader around query) run = (.ok result, after)) :
    ∃ sources project, loader.Answers query run.state sources project ∧
      (∀ source ∈ sources, ∀ cause,
        (loader.loaded around query.noUpdate source run.state).result ≠
          .error (.breakdown cause)) ∧
      result = query.assembled (.combined sources fun source =>
        (loader.loaded around query.noUpdate source run.state).result) project ∧
      ∀ source ∈ sources, ∃ moment, world moment ∧
        entries moment source.key = entries run.state source.key ∧
        entries after.state source.key =
          entries (loader.loaded around query.noUpdate source moment).state source.key := by
  obtain ⟨log, loading⟩ := load_on loader around query run
  rw [returned] at loading
  cases chain : Source.chain loader.catalog (loader.files run.state) query.languageOrGeneral
      query.framework with
  | error error => simp [chain] at loading
  | ok sources =>
      simp only [chain, Prod.mk.injEq] at loading
      obtain ⟨ended, rfl⟩ := loading
      have distinct := plain.keys_nodup chain
      have consulted : ∀ source ∈ sources, ∀ path ∈ source.localPath,
          path ∈ query.paths loader.catalog := fun source member path held =>
        List.mem_append_left _ (Source.mapM_find_localPath chain source member path held)
      obtain ⟨base, gathered, ended⟩ := except_bind_eq_ok.mp ended.symm
      obtain ⟨project, part, rfl⟩ := except_map_eq_ok.mp ended
      have reported := Loader.gathered_reported confined distinct consulted inside gathered
      have alone := (Loader.gathered_alone confined distinct consulted inside reported).1
      obtain rfl := Except.ok.inj (gathered.symm.trans alone)
      have final : world (loader.gathered around query.noUpdate sources run.state).state :=
        Loader.gathered_world confined inside
      have own := Loader.gathered_own confined distinct inside gathered
      exact ⟨sources, project, ⟨chain, (confined.projectPart_eq inside final).trans part⟩,
        reported, rfl, own⟩

/-- A query whose sources do not break down is loaded. -/
theorem load_reported (around : Surroundings) (query : RuleQuery)
    (confined : loader.Confined entries (query.paths loader.catalog) world)
    (plain : query.Plain) {run : Run σ} (inside : world run.state)
    (answers : loader.Answers query run.state sources project)
    (reported : ∀ source ∈ sources, ∀ cause,
      (loader.loaded around query.noUpdate source run.state).result ≠ .error (.breakdown cause)) :
    ∃ after, on (load loader around query) run =
        (.ok (query.assembled (.combined sources fun source =>
          (loader.loaded around query.noUpdate source run.state).result) project), after) ∧
      after.requests = run.requests ++ sources.flatMap fun source =>
        (loader.loaded around query.noUpdate source run.state).requests := by
  obtain ⟨log, loading⟩ := load_on loader around query run
  obtain ⟨gathered, requests⟩ := Loader.gathered_alone confined (plain.keys_nodup answers.chain)
    answers.consulted inside reported
  have final : world (loader.gathered around query.noUpdate sources run.state).state :=
    Loader.gathered_world confined inside
  have part := (confined.answers inside final answers).project
  simp only [answers.chain, gathered, Except.bind, part, Except.map] at loading
  exact ⟨_, loading, by rw [requests]⟩

end Manager

end Confined

end Rulebook
