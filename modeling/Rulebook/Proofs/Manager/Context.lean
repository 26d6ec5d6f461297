import Mathlib
import Rulebook.Proofs.Loading.Source
import Rulebook.Proofs.Manager.Session

/-!
What a manager serves to one context that comes from another. A result is given again to queries of
its key, and these consult the same as the query that it was loaded for, but for a framework that is
called "none". The pattern of a rule is given again to all rules of its id: a text is scored with
the patterns that were first wanted, whatever rules they belonged to.
-/

namespace Rulebook

variable {σ α : Type}

namespace Session

variable [Pattern.Edition] (loader : Loader σ) (scoring : Scoring α)

theorem make_asked (session : Session σ) (move : Move σ) (asking : Asking σ)
    (member : asking ∈ (session.make loader scoring move).asked) :
    asking ∈ session.asked ∨ move = .resolve asking := by
  cases move with
  | resolve other =>
      rcases List.mem_append.mp member with before | now
      · exact .inl before
      · exact .inr (congrArg Move.resolve (List.mem_singleton.mp now).symm)
  | compile rule => exact .inl member
  | classify text rules => exact .inl member
  | clear => simp [make] at member

theorem after_asked (moves : List (Move σ)) (asking : Asking σ)
    (member : asking ∈ (after loader scoring moves).asked) : .resolve asking ∈ moves := by
  suffices onward : ∀ session : Session σ,
      asking ∈ (moves.foldl (make loader scoring) session).asked →
      asking ∈ session.asked ∨ .resolve asking ∈ moves by
    simpa using onward {} member
  clear member
  induction moves with
  | nil => exact fun _ before => .inl before
  | cons move rest ih =>
      intro session final
      rcases ih _ final with before | later
      · rcases make_asked loader scoring session move asking before with before | rfl
        · exact .inl before
        · exact .inr List.mem_cons_self
      · exact .inr (List.mem_cons_of_mem move later)

/-- Queries with one key have the same chain of sources and the same file of a project, so that they
are loaded alike, unless one of them asks for no framework and the other for the one called "none".
What a manager answers after any moves was loaded for the query itself, if no result has its key, or
else for a query that it was asked since it was last cleared, whose key is the same: it consults the
same or is confused with the one that is answered. -/
theorem answer_from_own_context (moves : List (Move σ)) (asking : Asking σ)
    (moveProper : ∀ origin, .resolve origin ∈ moves → origin.query.Proper)
    (proper : asking.query.Proper) :
    (∀ first second : RuleQuery, first.Proper → second.Proper → first.key = second.key →
      (¬ RuleQuery.Confused first second →
        (∀ catalog files,
          Source.chain catalog files first.languageOrGeneral first.framework =
            Source.chain catalog files second.languageOrGeneral second.framework) ∧
        first.project.map Loader.projectFile = second.project.map Loader.projectFile ∧
        (first.noUpdate = second.noUpdate → first.overrides = second.overrides →
          ∀ around, Manager.load loader around first = Manager.load loader around second)) ∧
      (RuleQuery.Confused first second →
        Source.chainNames first.languageOrGeneral first.framework ≠
          Source.chainNames second.languageOrGeneral second.framework)) ∧
    let session := after loader scoring moves
    let answer := asking.answer loader session.manager
    (session.manager.results.lookup asking.query.key = none →
      answer.map (fun (resolved, _) => resolved.content) = asking.loaded loader) ∧
    ∀ resolved manager, answer = .ok (resolved, manager) →
      ∃ origin ∈ session.asked ++ [asking], origin.query.key = asking.query.key ∧
        origin.loaded loader = .ok resolved.content ∧
        (origin.query.consulted = asking.query.consulted ∨
          RuleQuery.Confused origin.query asking.query) := by
  refine ⟨fun first second firstProper secondProper same =>
    ⟨fun distinct => ?_, fun confused => ?_⟩, ?_, ?_⟩
  · have consults := (RuleQuery.consulted_eq_iff firstProper secondProper same).mpr distinct
    have sources := congrArg RuleQuery.Consulted.sources consults
    simp only [RuleQuery.consulted] at sources
    exact ⟨fun catalog files => by rw [Source.chain, sources, Source.chain],
      congrArg RuleQuery.Consulted.project consults,
      fun noUpdate overrides around => Manager.load_congr loader around consults noUpdate overrides⟩
  · exact RuleQuery.sources_ne_of_confused same confused
  · intro unknown
    rw [Asking.answer_eq, unknown]
    cases asking.loaded loader <;> rfl
  · intro resolved manager answered
    obtain ⟨origin, member, same, loaded⟩ :=
      answer_origin loader (after_accounted loader scoring moves) answered
    have originProper : origin.query.Proper := by
      rcases List.mem_append.mp member with earlier | now
      · exact moveProper origin (after_asked loader scoring moves origin earlier)
      · exact List.mem_singleton.mp now ▸ proper
    refine ⟨origin, member, same, loaded, ?_⟩
    rw [RuleQuery.consulted_eq_iff originProper proper same]
    exact Classical.or_iff_not_imp_right.mpr id

/-- After any moves a text is scored, with the manager's compiler, as it would be with an empty one
and the patterns that were first wanted for the ids of the rules since the manager was last cleared,
whatever rules, texts and queries they were wanted for. So the moves do not matter where these are
the rules' own patterns. -/
theorem classify_recalls_first_patterns (moves : List (Move σ)) (text : String)
    (rules : List Rule) :
    let session := after loader scoring moves
    let result := (Classification.classify scoring session.manager.compiler text rules).1
    result = (Classification.classify scoring {} text
      (rules.map (Rule.recalled session.consulted))).1 ∧
    ((∀ rule ∈ rules, ∀ first, Rule.firstBuilt session.consulted rule.id = some first →
        first.pattern = rule.pattern) →
      result = (Classification.classify scoring {} text rules).1) := by
  intro session result
  have accounted := after_accounted loader scoring moves
  have recalled : result = (Classification.classify scoring {} text
      (rules.map (Rule.recalled session.consulted))).1 :=
    Classification.classify_recalled scoring text accounted.compiler rules
  refine ⟨recalled, fun agree => ?_⟩
  have same : rules.map (Rule.recalled session.consulted) = rules.map id :=
    List.map_congr_left fun rule member => Rule.recalled_eq_self (agree rule member)
  rw [recalled, same, List.map_id]

end Session

-- A folder of built-in rules with some for a framework called "none", and two projects whose
-- rules of one id differ.

namespace Session.Sample

def files : Files where
  entries := [
    (["rules"], .directory), (["rules", "frameworks"], .directory),
    (["rules", "general.yml"], .file "rules:\n- id: a".toUTF8.toList),
    (["rules", "frameworks", "none.yml"], .file "rules:\n- id: b".toUTF8.toList)]

def loader : Loader (Files × CacheTable) :=
  .beside ⟨⟨"/", ["rules"]⟩, "http://rules"⟩ ⟨"http://rules", 10, .whole 1⟩ .memory

/-- A query that meets no network. -/
def asking (query : RuleQuery) : Asking (Files × CacheTable) where
  query
  around := ⟨fun _ => .failure "timeout" "", 0⟩
  world := { state := (files, []) }

/-- Confidence is the number of matches. -/
def counting : Scoring Nat := ⟨fun _ hits _ => hits, fun first second => first < second⟩

def ids (result : Except Breakdown LoadResult) : List String :=
  match result with
  | .ok loaded => loaded.rules.map Rule.id
  | .error _ => []

/-- The ids of the rules that a manager answers. -/
def answered (manager : Manager) (query : RuleQuery) : List String :=
  ids (((asking query).answer loader manager).map fun (resolved, _) => resolved.content)

/-- A project's rules for the general language, which is asked for by its name and then not. -/
theorem general_answered_from_own_context :
    let project : Option Path := some ⟨"/", ["one"]⟩
    let named : RuleQuery := { project, language := some "general", framework := some "" }
    let plain : RuleQuery := { project }
    let session := after loader counting [.resolve (asking named)]
    (∀ origin, .resolve origin ∈ [Move.resolve (asking named)] → origin.query.Proper) ∧
    plain.Proper ∧ session.manager.results.lookup plain.key ≠ none ∧
    ∃ resolved manager, (asking plain).answer loader session.manager = .ok (resolved, manager) ∧
      ∃ origin ∈ session.asked ++ [asking plain], origin.query.key = plain.key ∧
        origin.loaded loader = .ok resolved.content ∧
        (origin.query.consulted = plain.consulted ∨
          RuleQuery.Confused origin.query plain) := by
  intro project named plain session
  have proper : ∀ path ∈ project, path.Proper := by
    intro path member
    obtain rfl : ⟨"/", ["one"]⟩ = path := Option.some.inj member
    exact ⟨.inr (.inl rfl), by decide⟩
  have moveProper : ∀ origin, .resolve origin ∈ [Move.resolve (asking named)] →
      origin.query.Proper := by
    intro origin member
    cases List.mem_singleton.mp member
    exact proper
  have shown : answered session.manager plain = ["a"] := by decide +kernel
  cases result : (asking plain).answer loader session.manager with
  | error cause => simp [answered, result, ids, Except.map] at shown
  | ok pair =>
      obtain ⟨resolved, manager⟩ := pair
      refine ⟨moveProper, proper, ?_, resolved, manager, rfl, ?_⟩
      · have held : (session.manager.results.lookup plain.key).isSome := by decide +kernel
        exact Option.isSome_iff_ne_none.mp held
      · have origins := answer_from_own_context loader counting
          [.resolve (asking named)] (asking plain) moveProper proper
        exact origins.2.2 resolved manager result

/-- The rules for no framework are served for the one called "none", which has more. -/
theorem none_served_without_framework :
    let plain : RuleQuery := {}
    let named : RuleQuery := { framework := some "none" }
    let session := after loader counting [.resolve (asking plain)]
    plain.key = named.key ∧
    Source.chainNames plain.languageOrGeneral plain.framework = ["general"] ∧
    Source.chainNames named.languageOrGeneral named.framework = ["general", "frameworks/none"] ∧
    answered session.manager named = ["a"] ∧ ids ((asking named).loaded loader) = ["a", "b"] := by
  refine ⟨by decide, by decide, by decide, ?_, ?_⟩
  · decide +kernel
  · decide +kernel

/-- A query for a project, with a rule that comes with it. -/
def projectQuery (folder pattern : String) : RuleQuery where
  project := some ⟨"/", [folder]⟩
  overrides := [{ id := "r", pattern := some pattern, category := some "c", weight := some 1.0 }]

/-- The rules that a manager answers. -/
def served (manager : Manager) (query : RuleQuery) : List Rule :=
  match (asking query).answer loader manager with
  | .ok (resolved, _) => resolved.rules
  | .error _ => []

/-- What of a rule decides how it is scored, but for the value of its weight. -/
def outline (rule : Rule) : String × Option String × Option String × Bool :=
  (rule.id, rule.pattern, rule.category, rule.weight.isSome)

/-- Of the rules for a project, the one that comes with the query is scored. -/
theorem scored_of_outlines (rules : List Rule) (pattern : String)
    (outlines : (rules.filter Classification.isScored).map outline =
      [("r", some pattern, some "c", true)]) :
    ∃ rule : Rule, rule.id = "r" ∧ rule.pattern = some pattern ∧
      (∀ text compiler, Classification.consulted text compiler rules = [rule]) ∧
      ∀ text compiler, (Classification.classify counting compiler text rules).1 =
        (Classification.hits text compiler rule).map fun count =>
          if count = 0 then [] else [⟨"c", count, "r"⟩] := by
  obtain ⟨rule, scored, outlined⟩ := List.map_eq_singleton_iff.mp outlines
  simp only [outline, Prod.mk.injEq] at outlined
  obtain ⟨id, source, category, weighed⟩ := outlined
  obtain ⟨weight, weighed⟩ := Option.isSome_iff_exists.mp weighed
  have isScored : Classification.isScored rule := by
    simp [Classification.isScored, category, weighed]
  refine ⟨rule, id, source, fun text compiler => ?_, fun text compiler => ?_⟩
  · rw [← Classification.consulted_filter, scored,
      Classification.consulted_singleton text _ isScored]
  · rw [← Classification.classify_filter, scored,
      Classification.classify_singleton counting text compiler category weighed]
    congr 1
    funext count
    cases count <;> simp [Classification.afterHits, Classification.keepBest, counting, id]

/-- A text is scored for the second project with the pattern of the first, which has a rule of the
same id. -/
theorem pattern_served_to_other_project :
    let one := projectQuery "one" "alpha"
    let two := projectQuery "two" "beta"
    let session := after loader counting
      [.resolve (asking one), .classify "alpha" (served {} one), .resolve (asking two)]
    let rules := served session.manager two
    (Classification.classify counting session.manager.compiler "beta" rules).1 = .ok [] ∧
      (Classification.classify counting {} "beta" rules).1 = .ok [⟨"c", 1, "r"⟩] := by
  intro one two session rules
  have alpha : Matcher.ofPattern (some "alpha") >>= Matcher.count "beta" = .ok 0 := by cbv
  have beta : Matcher.ofPattern (some "beta") >>= Matcher.count "beta" = .ok 1 := by cbv
  obtain ⟨first, firstId, firstPattern, firstConsulted, -⟩ :=
    scored_of_outlines (served {} one) "alpha" (by decide +kernel)
  obtain ⟨second, secondId, secondPattern, -, classified⟩ :=
    scored_of_outlines rules "beta" (by decide +kernel)
  have remembers : session.manager.compiler.Remembers [first] := by
    have consulted : session.consulted = [first] := by
      simpa [session, after, make] using firstConsulted "alpha" _
    exact consulted ▸ (after_accounted loader counting _).compiler
  have made : (Matcher.ofPattern first.pattern).isOk := by
    rw [firstPattern]
    cases result : Matcher.ofPattern (some "alpha") with
    | ok matcher => rfl
    | error failure =>
        rw [result] at alpha
        cases alpha
  have recalled : (second.recalled [first]).pattern = some "alpha" := by
    have found : Rule.firstBuilt [first] second.id = some first := by
      simp [Rule.firstBuilt, firstId, secondId, made]
    rw [Rule.recalled, found, ← firstPattern]
  have stale : Classification.hits "beta" session.manager.compiler second = .ok 0 := by
    rw [Classification.hits, remembers.answer_eq_recalled, recalled, alpha]
  have fresh : Classification.hits "beta" {} second = .ok 1 := by
    rw [Classification.hits, Compiler.answer_of_empty, secondPattern, beta]
  rw [classified, classified, stale, fresh]
  exact ⟨rfl, rfl⟩

end Session.Sample

end Rulebook
