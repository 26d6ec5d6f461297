import Rulebook.Program
import Rulebook.Proofs.Loading.Attempts
import Rulebook.Proofs.Manager.Repetition

namespace Rulebook

open Running

variable {σ ε α β : Type}

namespace Running

/-- What follows leaves the run as it is. -/
theorem on_bind_left {operation : Running σ ε α} {next : α → Running σ ε β}
    (spared : ∀ value run, (on (next value) run).2 = run) (run : Run σ) :
    (on (operation >>= next) run).2 = (on operation run).2 := by
  rw [on_bind]
  match on operation run with
  | (.ok value, after) => exact spared value after
  | (.error error, after) => rfl

end Running

namespace Manager

variable {loader : Loader σ} {around : Surroundings} {query : RuleQuery}
  {entries : σ → CacheKey → Option CacheEntry} {paths : List Path} {world : σ → Prop}

theorem load_attempts (confined : loader.Confined entries paths world) (plain : query.Plain)
    {run after : Run σ} (inside : world run.state) {result : LoadResult}
    (returned : on (load loader around query) run = (.ok result, after)) :
    ∃ sources, Source.chain loader.catalog (loader.files run.state) query.languageOrGeneral
        query.framework = .ok sources ∧
      Attempts loader.remote around.network run after
        (sources.flatMap (loader.attempted around query.noUpdate (entries run.state))) := by
  unfold load at returned
  rw [on_bind] at returned
  cases gathered : on (loader.base around query.languageOrGeneral query.framework query.noUpdate)
      run with
  | mk ended between =>
      cases ended with
      | error cause => simp [gathered] at returned
      | ok base =>
          obtain ⟨sources, chain, attempts⟩ := Loader.base_attempts confined inside
            (fun sources chain => plain.keys_nodup chain) gathered
          refine ⟨sources, chain, ?_⟩
          simp only [gathered] at returned
          have silent : Attempts loader.remote around.network between after [] := by
            cases named : query.project with
            | none =>
                simp only [named] at returned
                obtain rfl : between = after := congrArg Prod.snd returned
                exact .refl between
            | some folder =>
                simp only [named] at returned
                have left := congrArg Prod.snd returned
                rw [on_bind_left fun _ _ => rfl] at left
                obtain rfl : (on (loader.project folder) between).2 = after := left
                exact loader.project_attempts around.network folder between
          have all := attempts.append silent
          rwa [List.append_nil] at all

theorem resolve_confined (confined : loader.Confined entries paths world) (manager : Manager)
    {run : Run σ} (inside : world run.state) :
    world (on (resolve loader around query manager) run).2.state := by
  rw [resolve_on]
  cases manager.results.lookup query.key with
  | some resolved => exact inside
  | none =>
      obtain ⟨log, loading⟩ := load_on loader around query run
      simp only [loading]
      cases Source.chain loader.catalog (loader.files run.state) query.languageOrGeneral
          query.framework with
      | error error => exact inside
      | ok sources => exact Loader.gathered_world confined inside

end Manager

/-- The second log is the first one with further lines, which announce no download. -/
def Unannounced (before after : List LogLine) : Prop :=
  ∃ lines, after = before ++ lines ∧ ∀ line ∈ lines, line.announces = false

theorem Unannounced.refl (log : List LogLine) : Unannounced log log :=
  ⟨[], (List.append_nil log).symm, fun _ member => absurd member List.not_mem_nil⟩

theorem Unannounced.trans {first second third : List LogLine} (one : Unannounced first second)
    (two : Unannounced second third) : Unannounced first third := by
  obtain ⟨lines, rfl, silent⟩ := one
  obtain ⟨more, rfl, alsoSilent⟩ := two
  exact ⟨lines ++ more, List.append_assoc .., List.forall_mem_append.mpr ⟨silent, alsoSilent⟩⟩

theorem Matcher.build_unannounced [Pattern.Edition] {rule : Rule} {matcher : Matcher}
    {lines : List LogLine} (built : build rule = .ok (matcher, lines)) :
    ∀ line ∈ lines, line.announces = false := by
  unfold build at built
  split at built
  · cases built
    exact List.forall_mem_singleton.mpr rfl
  · split at built <;> cases built
    · exact fun _ member => absurd member List.not_mem_nil
    · exact List.forall_mem_singleton.mpr rfl

theorem Compiler.compile_unannounced [Pattern.Edition] (compiler : Compiler) (rule : Rule) :
    Unannounced compiler.log (compiler.compile rule).2.log := by
  unfold compile
  split
  · exact .refl _
  · split
    · rename_i built
      exact ⟨_, rfl, Matcher.build_unannounced built⟩
    · exact .refl _

theorem Classification.scoreAll_unannounced [Pattern.Edition] (scoring : Scoring α) (text : String)
    (words : Nat) (compiler : Compiler) (best : List (Classification α)) (rules : List Rule) :
    Unannounced compiler.log (scoreAll scoring text words compiler best rules).2.log := by
  induction rules generalizing compiler best with
  | nil => exact .refl _
  | cons rule rest ih =>
      have compiled := compiler.compile_unannounced rule
      unfold scoreAll
      split
      · generalize compiler.compile rule = made at compiled ⊢
        obtain ⟨ended, after⟩ := made
        cases ended with
        | error failure => exact compiled
        | ok matcher =>
            simp only
            split
            · exact compiled
            · exact compiled.trans (ih _ _)
            · exact compiled.trans (ih _ _)
      · exact ih _ _

theorem Classification.classify_unannounced [Pattern.Edition] (scoring : Scoring α)
    (compiler : Compiler) (text : String) (rules : List Rule) :
    Unannounced compiler.log (classify scoring compiler text rules).2.log := by
  have scored := scoreAll_unannounced scoring text (Text.wordCount text) compiler [] rules
  unfold classify
  generalize scoreAll scoring text (Text.wordCount text) compiler [] rules = left at scored ⊢
  obtain ⟨ended, after⟩ := left
  cases ended <;> exact scored

namespace Program

theorem on_lift (result : Except ε β) (run : Run σ) :
    on (liftM result : Running σ ε β) run = (result, run) := by
  cases result <;> rfl

theorem resolve_left (invocation : Invocation) (settings : Settings) (query : RuleQuery)
    (run : Run Disk) :
    (on (Program.resolve invocation settings query) run).2 =
      (on (Manager.resolve (loader settings) invocation.around query {}) run).2 := by
  simp only [Program.resolve, on_bind, on_outcome]
  match (on (Manager.resolve (loader settings) invocation.around query {}) run).1 with
  | .ok (resolved, _) => rfl
  | .error breakdown => rfl

theorem present_left (invocation : Invocation) (panels : List Terminal.Panel)
    (resolved : Resolved) (run : Run Disk) :
    (on (present invocation panels resolved) run).2 = run := by
  unfold present
  cases Path.home invocation.homes <;> rfl

/-- A command that shows what becomes of the rules for a query leaves what resolving it has left. -/
theorem resolved_left (invocation : Invocation) (settings : Settings)
    (arguments : Command.Arguments) {next : RuleQuery → Resolved → Step Shown}
    (spared : ∀ query resolved run, (on (next query resolved) run).2 = run) (run : Run Disk) :
    let command : Step Shown := do
      let query ← query invocation (← get).state.files arguments
      let resolved ← resolve invocation settings query
      next query resolved
    (on command run).2 = run ∨ ∃ query, (on command run).2 =
      (on (Manager.resolve (loader settings) invocation.around query {}) run).2 := by
  intro command
  simp only [command]
  rw [on_bind, on_get]
  dsimp only
  rw [on_bind, on_lift]
  cases query invocation run.state.files arguments with
  | error stop => exact .inl rfl
  | ok query =>
      refine .inr ⟨query, ?_⟩
      rw [← resolve_left]
      exact on_bind_left (spared query) run

/-- Listing and classifying do no more to a run than to resolve a query. -/
theorem commands_left [Pattern.Edition] (invocation : Invocation) (settings : Settings)
    (arguments : Command.Arguments) (run : Run Disk) :
    ∀ command ∈ [listRules, classifyText],
      (on (command invocation settings arguments) run).2 = run ∨
        ∃ query, (on (command invocation settings arguments) run).2 =
          (on (Manager.resolve (loader settings) invocation.around query {}) run).2 := by
  refine List.forall_mem_cons.mpr ⟨?_, List.forall_mem_singleton.mpr ?_⟩
  · refine resolved_left invocation settings arguments (fun query resolved run => ?_) run
    dsimp only
    split
    · rfl
    · split
      · rfl
      · exact present_left _ _ _ _
  · refine resolved_left invocation settings arguments (fun query resolved run => ?_) run
    dsimp only
    split
    · rfl
    · exact present_left _ _ _ _

end Program

namespace Manager

variable {loader : Loader σ} {around : Surroundings} {query : RuleQuery}
  {entries : σ → CacheKey → Option CacheEntry} {paths : List Path} {world : σ → Prop}
  {manager kept : Manager} {resolved : Resolved} {run after : Run σ}

/-- The addresses that are tried for sources, if updates are allowed. -/
def expectedAttempts (loader : Loader σ) (around : Surroundings) (noUpdate : Bool)
    (held : CacheKey → Option CacheEntry) (sources : List Source) : List String :=
  if noUpdate then []
  else (sources.filter (Source.isAskedFor loader.remote.freshFor around.now held)).map Source.url

theorem lookup_of_resolve (unknown : manager.results.lookup query.key = none)
    (returned : on (resolve loader around query manager) run = (.ok (resolved, kept), after)) :
    kept.results.lookup query.key = some resolved := by
  rw [resolve_on, unknown] at returned
  obtain ⟨result, -, keeping⟩ := except_map_eq_ok.mp (congrArg Prod.fst returned)
  cases keeping
  simp

theorem flatMap_attempted (sameBase : loader.catalog.baseUrl = loader.remote.baseUrl)
    (plain : query.Plain) {files : Files} {sources : List Source}
    (chain : Source.chain loader.catalog files query.languageOrGeneral query.framework =
      .ok sources) (noUpdate : Bool) (held : CacheKey → Option CacheEntry) :
    sources.flatMap (loader.attempted around noUpdate held) =
      expectedAttempts loader around noUpdate held sources := by
  have single : ∀ source ∈ sources, loader.attempted around noUpdate held source =
      if !noUpdate && source.isAskedFor loader.remote.freshFor around.now held then [source.url]
      else [] := fun source member =>
    Loader.attempted_eq around noUpdate held
      (sameBase ▸ Source.urlFor_remotePath plain.isPlainName.1 chain member)
  rw [List.flatMap_congr single, flatMap_ite_singleton, expectedAttempts]
  cases noUpdate <;> simp

theorem resolve_attempts (sameBase : loader.catalog.baseUrl = loader.remote.baseUrl)
    (confined : loader.Confined entries paths world) (plain : query.Plain)
    (inside : world run.state) (unknown : manager.results.lookup query.key = none)
    (returned : on (resolve loader around query manager) run = (.ok (resolved, kept), after)) :
    ∃ sources, Source.chain loader.catalog (loader.files run.state) query.languageOrGeneral
        query.framework = .ok sources ∧
      (expectedAttempts loader around query.noUpdate (entries run.state) sources).Nodup ∧
      Attempts loader.remote around.network run after
        (expectedAttempts loader around query.noUpdate (entries run.state) sources) := by
  obtain ⟨sources, chain, attempts⟩ :=
    load_attempts confined plain inside (load_of_resolve unknown returned)
  rw [flatMap_attempted sameBase plain chain] at attempts
  refine ⟨sources, chain, ?_, attempts⟩
  have urls := Source.chain_urls_nodup chain (plain.keys_nodup chain)
  unfold expectedAttempts
  split
  · exact List.nodup_nil
  · exact urls.sublist (List.filter_sublist.map Source.url)

/-- The downloads that are attempted while a manager is in use. A query whose key has a result
attempts none. Any other one that is answered attempts, in the order of its chain and once each,
those of its sources that have no built-in file and no fresh document in the cache when it is asked,
and none at all if updates are disabled. Answering leaves the world of a working store only for
states of the same kind, so that this holds for all that follows. A project is read, rules are
compiled and texts are classified without an attempt; and where rules are listed or texts are
classified for a query, nothing else is done to the run than to resolve it. -/
theorem attempts_of_queries [Pattern.Edition]
    (sameBase : loader.catalog.baseUrl = loader.remote.baseUrl)
    (confined : loader.Confined entries paths world) (plain : query.Plain)
    (inside : world run.state) (around : Surroundings) (manager : Manager) :
    let answer := on (resolve loader around query manager) run
    (∀ resolved, manager.results.lookup query.key = some resolved →
      answer = (.ok (resolved, manager), run) ∧
        Attempts loader.remote around.network run answer.2 []) ∧
    (manager.results.lookup query.key = none → ∀ resolved kept after,
      answer = (.ok (resolved, kept), after) →
      ∃ sources, Source.chain loader.catalog (loader.files run.state) query.languageOrGeneral
          query.framework = .ok sources ∧
        let urls := if query.noUpdate then [] else
          (sources.filter fun source => source.localPath.isNone &&
            !(entries run.state source.key).any fun entry =>
              entry.age around.now ≤ loader.remote.freshFor).map Source.url
        urls.Nodup ∧ Attempts loader.remote around.network run after urls) ∧
    world answer.2.state ∧
    (∀ folder, Attempts loader.remote around.network run
      (on (loader.project folder) run).2 []) ∧
    (∀ compiler rule, Unannounced compiler.log (Compiler.compile compiler rule).2.log) ∧
    (∀ compiler text rules, Unannounced compiler.log
      (Classification.classify Scoring.density compiler text rules).2.log) ∧
    ∀ invocation settings arguments start, ∀ command ∈ [Program.listRules, Program.classifyText],
      let left := (on (command invocation settings arguments) start).2
      left = start ∨ ∃ query,
        left = (on (resolve (Program.loader settings) invocation.around query {}) start).2 := by
  intro answer
  refine ⟨fun resolved known => ?_, fun unknown resolved kept after returned =>
      resolve_attempts sameBase confined plain inside unknown returned,
    resolve_confined confined manager inside,
    fun folder => loader.project_attempts around.network folder run,
    Compiler.compile_unannounced, Classification.classify_unannounced Scoring.density,
    Program.commands_left⟩
  have same : answer = (.ok (resolved, manager), run) := by
    simp only [answer, resolve_on, known]
  exact ⟨same, same ▸ .refl run⟩

end Manager

namespace Manager.Sample

/-- Of a built-in file, a stale document and a missing one, the last two are tried for, and nothing
once the result is kept. -/
theorem stale_and_missing_attempted :
    let run : Run (Files × CacheTable) := { state := (files, Loader.Sample.cached) }
    let network := Loader.Sample.around.network
    ∃ resolved kept after,
      on (resolve remembering Loader.Sample.around query {}) run = (.ok (resolved, kept), after) ∧
      Attempts remembering.remote network run after
        ["http://rules/python.yml", "http://rules/frameworks/web.yml"] ∧
      on (resolve remembering Loader.Sample.around query kept) after =
        (.ok (resolved, kept), after) := by
  intro run network
  have plain : query.Plain := ⟨by decide, by decide⟩
  have outlined : outline (on (resolve remembering Loader.Sample.around query {}) run) =
      some (["own", "cached", "fetched"], [], 2) := by decide +kernel
  obtain ⟨resolved, kept, after, ran, -⟩ := answered outlined
  obtain ⟨-, asked, -⟩ := attempts_of_queries rfl remembering_confined plain
    (show run.state.1 = files from rfl) Loader.Sample.around {}
  obtain ⟨sources, chain, -, attempts⟩ := asked rfl resolved kept after ran
  obtain rfl : Loader.Sample.sources = sources := Except.ok.inj chain
  have urls : expectedAttempts remembering Loader.Sample.around false run.state.2.find?
      Loader.Sample.sources =
        ["http://rules/python.yml", "http://rules/frameworks/web.yml"] := by decide +kernel
  refine ⟨resolved, kept, after, ran, urls ▸ attempts, ?_⟩
  have world := resolve_world remembering_confined (show run.state.1 = files from rfl) ran
  obtain ⟨known, -⟩ := attempts_of_queries rfl remembering_confined plain world
    Loader.Sample.around kept
  exact (known resolved (lookup_of_resolve rfl ran)).1

end Manager.Sample

end Rulebook
