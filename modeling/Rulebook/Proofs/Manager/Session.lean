import Rulebook.Proofs.Classification.Recalling
import Rulebook.Proofs.Manager.Query
import Rulebook.Proofs.Running

namespace Rulebook

open Running

variable {σ α : Type}

/-- What is found, without the number that a manager gives it. -/
def Resolved.content (resolved : Resolved) : LoadResult :=
  ⟨resolved.rules, resolved.errors, resolved.staleSources⟩

namespace Manager

/-- The manager with a result that it has made. -/
def keep (manager : Manager) (key : RuleQuery.Key) (result : LoadResult) : Resolved × Manager :=
  let resolved := ⟨manager.made, result.rules, result.errors, result.staleSources⟩
  (resolved, { manager with
    results := (key, resolved) :: manager.results
    made := manager.made + 1 })

/-- A query whose key has a result loads nothing, and one that has none is loaded. -/
theorem resolve_on (loader : Loader σ) (around : Surroundings) (query : RuleQuery)
    (manager : Manager) (run : Run σ) :
    on (resolve loader around query manager) run =
      match manager.results.lookup query.key with
      | some resolved => (.ok (resolved, manager), run)
      | none =>
          let (result, after) := on (load loader around query) run
          (result.map (manager.keep query.key), after) := by
  unfold resolve
  cases manager.results.lookup query.key with
  | some resolved => rfl
  | none =>
      simp only [on_bind]
      cases on (load loader around query) run with
      | mk result after => cases result <;> rfl

end Manager

/-- A query and what it meets: the network, the clock, and what the state has become. -/
structure Asking (σ : Type) where
  query : RuleQuery
  around : Surroundings
  world : Run σ

namespace Asking

/-- What is found for the query by loading. -/
def loaded (loader : Loader σ) (asking : Asking σ) : Except Breakdown LoadResult :=
  (on (Manager.load loader asking.around asking.query) asking.world).1

/-- What a manager answers, and the manager after that. -/
def answer (loader : Loader σ) (asking : Asking σ) (manager : Manager) :
    Except Breakdown (Resolved × Manager) :=
  (on (Manager.resolve loader asking.around asking.query manager) asking.world).1

/-- The manager after the query, which is the same as before when the query fails. -/
def left (loader : Loader σ) (asking : Asking σ) (manager : Manager) : Manager :=
  match asking.answer loader manager with
  | .ok (_, after) => after
  | .error _ => manager

theorem answer_eq (loader : Loader σ) (asking : Asking σ) (manager : Manager) :
    asking.answer loader manager = match manager.results.lookup asking.query.key with
      | some resolved => .ok (resolved, manager)
      | none => (asking.loaded loader).map (manager.keep asking.query.key) := by
  rw [answer, Manager.resolve_on]
  cases manager.results.lookup asking.query.key <;> rfl

theorem answer_cases {loader : Loader σ} {asking : Asking σ} {manager after : Manager}
    {resolved : Resolved} (answered : asking.answer loader manager = .ok (resolved, after)) :
    manager.results.lookup asking.query.key = some resolved ∨
      asking.loaded loader = .ok resolved.content := by
  rw [answer_eq] at answered
  cases held : manager.results.lookup asking.query.key with
  | some earlier =>
      simp only [held, Except.ok.injEq, Prod.mk.injEq] at answered
      exact .inl (congrArg some answered.1)
  | none =>
      cases loaded : asking.loaded loader with
      | error cause => simp [held, loaded, Except.map] at answered
      | ok result =>
          simp only [held, loaded, Except.map, Except.ok.injEq] at answered
          obtain rfl : (manager.keep asking.query.key result).1 = resolved :=
            congrArg Prod.fst answered
          exact .inr rfl

/-- A query adds the result of its own key, or none. -/
theorem left_results {loader : Loader σ} {asking : Asking σ} {manager : Manager}
    {key : RuleQuery.Key} {resolved : Resolved}
    (held : (asking.left loader manager).results.lookup key = some resolved) :
    manager.results.lookup key = some resolved ∨
      asking.query.key = key ∧ asking.loaded loader = .ok resolved.content := by
  rw [left, answer_eq] at held
  cases known : manager.results.lookup asking.query.key with
  | some earlier => exact .inl (by simpa [known] using held)
  | none =>
      cases loaded : asking.loaded loader with
      | error cause => exact .inl (by simpa [known, loaded, Except.map] using held)
      | ok result =>
          by_cases same : key = asking.query.key
          · obtain rfl : (manager.keep asking.query.key result).1 = resolved := by
              simpa [known, loaded, Except.map, Manager.keep, same] using held
            exact .inr ⟨same.symm, rfl⟩
          · have passed : (key == asking.query.key) = false := beq_eq_false_iff_ne.mpr same
            refine .inl ?_
            simpa [known, loaded, Except.map, Manager.keep, List.lookup_cons, passed] using held

theorem left_compiler (loader : Loader σ) (asking : Asking σ) (manager : Manager) :
    (asking.left loader manager).compiler = manager.compiler := by
  rw [left, answer_eq]
  cases manager.results.lookup asking.query.key with
  | some resolved => rfl
  | none => cases asking.loaded loader <;> rfl

end Asking

/-- What is asked of a manager. -/
inductive Move (σ : Type) where
  | resolve (asking : Asking σ)
  | compile (rule : Rule)
  /-- The manager's compiler is used to score a text against rules. -/
  | classify (text : String) (rules : List Rule)
  | clear

/-- A manager, and what it was asked since it was last cleared: queries, and rules whose matchers
were wanted. -/
structure Session (σ : Type) where
  manager : Manager := {}
  asked : List (Asking σ) := []
  consulted : List Rule := []

namespace Session

variable [Pattern.Edition]

/-- Makes a move. -/
def make (loader : Loader σ) (scoring : Scoring α) (session : Session σ) : Move σ → Session σ
  | .resolve asking => { session with
      manager := asking.left loader session.manager
      asked := session.asked ++ [asking] }
  | .compile rule => { session with
      manager := { session.manager with compiler := (session.manager.compiler.compile rule).2 }
      consulted := session.consulted ++ [rule] }
  | .classify text rules =>
      let compiler := session.manager.compiler
      { session with
        manager := { session.manager with
          compiler := (Classification.classify scoring compiler text rules).2 }
        consulted := session.consulted ++ Classification.consulted text compiler rules }
  | .clear => { manager := session.manager.clear }

/-- A new manager after moves. -/
def after (loader : Loader σ) (scoring : Scoring α) (moves : List (Move σ)) : Session σ :=
  moves.foldl (make loader scoring) {}

/-- The manager keeps nothing but what comes from what it was asked. -/
structure Accounted (loader : Loader σ) (session : Session σ) : Prop where
  /-- A result was loaded for a query with its key. -/
  results : ∀ key resolved, session.manager.results.lookup key = some resolved →
    ∃ asking ∈ session.asked, asking.query.key = key ∧
      asking.loaded loader = .ok resolved.content
  compiler : session.manager.compiler.Remembers session.consulted

variable (loader : Loader σ) (scoring : Scoring α) {session : Session σ}

theorem make_accounted (accounted : session.Accounted loader) (move : Move σ) :
    (session.make loader scoring move).Accounted loader := by
  cases move with
  | resolve asking =>
      refine ⟨fun key resolved held => ?_, ?_⟩
      · rcases Asking.left_results held with before | ⟨same, loaded⟩
        · obtain ⟨origin, member, found⟩ := accounted.results key resolved before
          exact ⟨origin, List.mem_append_left _ member, found⟩
        · exact ⟨asking, List.mem_append_right _ List.mem_cons_self, same, loaded⟩
      · simpa only [make, Asking.left_compiler] using accounted.compiler
  | compile rule => exact ⟨accounted.results, accounted.compiler.asked rule⟩
  | classify text rules =>
      refine ⟨accounted.results, ?_⟩
      simpa only [make, Classification.classify_compiler] using accounted.compiler.foldl_asked _
  | clear => exact ⟨fun _ _ held => by simp [make, Manager.clear] at held,
      Compiler.remembers_nil rfl⟩

/-- What a manager answers was found by loading, for the query or for one before with its key. -/
theorem answer_origin (accounted : session.Accounted loader) {asking : Asking σ}
    {resolved : Resolved} {after : Manager}
    (answered : asking.answer loader session.manager = .ok (resolved, after)) :
    ∃ origin ∈ session.asked ++ [asking], origin.query.key = asking.query.key ∧
      origin.loaded loader = .ok resolved.content := by
  rcases Asking.answer_cases answered with held | loaded
  · obtain ⟨origin, member, found⟩ := accounted.results _ resolved held
    exact ⟨origin, List.mem_append_left _ member, found⟩
  · exact ⟨asking, List.mem_append_right _ List.mem_cons_self, rfl, loaded⟩

/-- After any moves a manager keeps nothing but what comes from what it was asked. -/
theorem after_accounted (moves : List (Move σ)) :
    (after loader scoring moves).Accounted loader := by
  have start : ({} : Session σ).Accounted loader :=
    ⟨fun _ _ held => by simp at held, Compiler.remembers_nil rfl⟩
  suffices onward : ∀ session : Session σ, session.Accounted loader →
      (moves.foldl (make loader scoring) session).Accounted loader from onward {} start
  induction moves with
  | nil => exact fun _ accounted => accounted
  | cons move rest ih =>
      exact fun session accounted => ih _ (make_accounted loader scoring accounted move)

end Session

end Rulebook
