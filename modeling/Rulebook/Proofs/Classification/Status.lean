import Rulebook.Proofs.Classification.Contribution
import Rulebook.Proofs.Classification.History
import Rulebook.Proofs.Pattern.Counting

namespace Rulebook

theorem Matcher.occursIn_of_count [Pattern.Edition] {matcher : Matcher} {text : String} {hits : Nat}
    (counted : matcher.count text = .ok hits) :
    matcher.occursIn text = .ok (decide (0 < hits)) := by
  cases matcher with
  | pattern compiled => exact Pattern.occursIn_of_count counted
  | broken message =>
      cases counted
      rfl

theorem Matcher.count_failure [Pattern.Edition] {matcher : Matcher} {text : String}
    {failure : Pattern.Failure} (failed : matcher.count text = .error failure) :
    failure = .reversedGroup := by
  cases matcher with
  | pattern compiled => exact Pattern.count_failure failed
  | broken message => contradiction

namespace Rule

variable {rule : Rule} {matcher : Matcher}

theorem status_eq_active_iff :
    rule.status matcher = .active ↔ rule.isComplete ∧ ¬matcher.isBroken := by
  unfold status
  constructor
  · intro isActive
    split_ifs at isActive with broken incomplete
    have complete : rule.isComplete := by simpa using incomplete
    refine ⟨complete, fun isBroken => broken ?_⟩
    rw [isComplete, Bool.and_eq_true, Bool.and_eq_true] at complete
    rw [complete.1.1, isBroken]
    rfl
  · rintro ⟨complete, works⟩
    simp [complete, works]

/-- The pattern of a rule is found in a text. -/
def OccursIn [Pattern.Edition] (rule : Rule) (text : String) : Prop :=
  ∃ matcher, Matcher.ofPattern rule.pattern = .ok matcher ∧ matcher.occursIn text = .ok true

end Rule

namespace Compiler

variable [Pattern.Edition] {compiler : Compiler} {rules : List Rule}

/-- A compiler that was asked for no others than these, with ids of their own, gives each its own. -/
theorem Remembers.answersOwn {past : List Rule} (remembers : compiler.Remembers past)
    (within : ∀ rule ∈ past, rule ∈ rules) (distinct : (rules.map Rule.id).Nodup) :
    compiler.AnswersOwn rules := by
  intro rule member
  rw [remembers.answer_eq_recalled, Rule.recalled_eq_self]
  intro first found
  obtain ⟨isPast, same, -⟩ := Rule.firstBuilt_some found
  rw [List.inj_on_of_nodup_map distinct (within first isPast) member same]

/-- Statuses are listed in the order of the rules, each by the matcher of the rule's own pattern, and
the compiler is left as it is when it is asked for each of the rules. -/
theorem AnswersOwn.withStatuses (own : compiler.AnswersOwn rules)
    (distinct : (rules.map Rule.id).Nodup) {matcherOf : Rule → Matcher}
    (made : ∀ rule ∈ rules, Matcher.ofPattern rule.pattern = .ok (matcherOf rule)) :
    compiler.withStatuses rules =
      (.ok (rules.map fun rule => (rule, rule.status (matcherOf rule))),
        rules.foldl Compiler.asked compiler) := by
  induction rules generalizing compiler with
  | nil => rfl
  | cons rule rest ih =>
      obtain ⟨fresh, others⟩ := List.nodup_cons.mp distinct
      obtain ⟨first, later⟩ := List.forall_mem_cons.mp made
      have compiled : compiler.compile rule = (.ok (matcherOf rule), compiler.asked rule) :=
        Prod.ext (own.head.trans first) rfl
      have listed := ih (own.asked fresh) others later
      simp only [Compiler.withStatuses, compiled, listed, Except.map, List.map_cons, List.foldl_cons]

end Compiler

namespace Classification

open Compiler

variable [Pattern.Edition] {α : Type} (scoring : Scoring α) (text : String) {rule : Rule}
  {matcher : Matcher}

theorem hits_of_inactive (made : Matcher.ofPattern rule.pattern = .ok matcher)
    (inactive : rule.status matcher ≠ .active) (scored : isScored rule) :
    hits text {} rule = .ok 0 := by
  obtain ⟨category, weight, filed, weighed⟩ := isScored_iff.mp scored
  -- With category and weight, a rule can only lack a pattern that can be compiled.
  have broken : matcher.isBroken := by
    by_contra works
    refine inactive (Rule.status_eq_active_iff.mpr ⟨?_, works⟩)
    obtain ⟨source, present, -⟩ : Matcher.CanCompile rule.pattern :=
      not_not.mp fun fails => works ((Matcher.isBroken_iff_of_ofPattern made).mpr fails)
    rw [Option.mem_def] at present
    simp [Rule.isComplete, present, filed, weighed]
  rw [hits_empty, made]
  exact (Matcher.isSilent_of_isBroken broken text).2

theorem matches_of_active (isActive : rule.status matcher = .active) (occurs : rule.OccursIn text)
    (countable : isScored rule → rule.CanCount text) :
    ∃ category weight hits, rule.Matches text category weight hits := by
  obtain ⟨complete, -⟩ := Rule.status_eq_active_iff.mp isActive
  simp only [Rule.isComplete, Bool.and_eq_true, Option.isSome_iff_exists] at complete
  obtain ⟨⟨-, category, filed⟩, weight, weighed⟩ := complete
  have scored : isScored rule := isScored_iff.mpr ⟨category, weight, filed, weighed⟩
  obtain ⟨count, counted⟩ := (canCount_iff text).mp (countable scored)
  obtain ⟨found, alsoMade, occursIn⟩ := occurs
  have own : found.count text = .ok count := by
    rwa [hits_empty, alsoMade] at counted
  have positive : 0 < count := by
    have told := (Matcher.occursIn_of_count own).symm.trans occursIn
    exact of_decide_eq_true (Except.ok.inj told)
  obtain ⟨more, rfl⟩ := Nat.exists_eq_add_one.mpr positive
  exact ⟨category, weight, more + 1, filed, weighed, (hits_eq_succ_iff text more).mp counted, positive⟩

variable {compiler : Compiler} {rules : List Rule}

theorem classify_failure {failure : Pattern.Failure} (distinct : (rules.map Rule.id).Nodup)
    (own : compiler.AnswersOwn rules)
    (compiles : ∀ rule ∈ rules, ∃ matcher, Matcher.ofPattern rule.pattern = .ok matcher)
    (failed : (classify scoring compiler text rules).1 = .error failure) :
    failure = .reversedGroup := by
  rw [classify_eq] at failed
  obtain ⟨rule, member, fails⟩ :=
    scoreAll_failure scoring text distinct own (except_map_eq_error.mp failed)
  obtain ⟨matcher, made⟩ := compiles rule member
  rw [hits_empty, made] at fails
  exact Matcher.count_failure fails

/-- A rule has no part in scoring: no result comes from it, and all is as it is without it. -/
structure IsIdle (compiler : Compiler) (rules : List Rule) (rule : Rule) : Prop where
  absent : ∀ text results, (classify scoring compiler text rules).1 = .ok results →
    ∀ result ∈ results, result.ruleId ≠ rule.id
  removable : ∀ text before after, rules = before ++ rule :: after →
    (classify scoring compiler text (before ++ after)).1 = (classify scoring compiler text rules).1

/-- A rule gives a result for each text in which its pattern is found, if it is the only one of its
category. -/
def IsHeard (compiler : Compiler) (rules : List Rule) (rule : Rule) : Prop :=
  (∀ other ∈ rules, other.category = rule.category → other = rule) →
    ∀ text results, rule.OccursIn text → (classify scoring compiler text rules).1 = .ok results →
      ∃ result ∈ results, Gives scoring text rule result

variable (distinct : (rules.map Rule.id).Nodup) (own : compiler.AnswersOwn rules)
  (member : rule ∈ rules)
include distinct own member

theorem isIdle_of_inactive (made : Matcher.ofPattern rule.pattern = .ok matcher)
    (inactive : rule.status matcher ≠ .active) : IsIdle scoring compiler rules rule := by
  have silent (text : String) := hits_of_inactive text made inactive
  refine ⟨fun text results ended result isResult same => ?_, ?_⟩
  · have kept := (perm_of_classified distinct own ended).mem_iff.mp isResult
    obtain ⟨other, isRule, weight, hits, matched, -, named⟩ :=
      mem_given_iff.mp (mem_of_mem_keepAll kept)
    obtain rfl := List.inj_on_of_nodup_map distinct isRule member (named.symm.trans same)
    have scored := isScored_iff.mpr ⟨_, _, matched.filed, matched.weighed⟩
    have none := (hits_of_matches matched).symm.trans (silent text scored)
    exact matched.occurs.ne' (Except.ok.inj none)
  · rintro text before after rfl
    exact (classify_remove scoring text distinct own (silent text)).symm

theorem isHeard_of_active (isActive : rule.status matcher = .active) :
    IsHeard scoring compiler rules rule := by
  intro sole text results occurs ended
  have perm := perm_of_classified distinct own ended
  rw [classify_own scoring text distinct own] at ended
  obtain ⟨countable, -⟩ := (classify_eq_ok_iff distinct results).mp ended
  obtain ⟨category, matched⟩ := matches_of_active text isActive occurs (countable rule member)
  obtain ⟨found, gives, -⟩ := (exists_gives_iff scoring).mpr matched
  refine ⟨found, perm.mem_iff.mpr (mem_keepAll_of_sole (fun other isFound same => ?_) ?_), gives⟩
  · obtain ⟨giver, isRule, alsoGives⟩ := mem_given_iff.mp isFound
    obtain rfl := sole giver isRule (by rw [alsoGives.filed, gives.filed, same])
    exact Option.some.inj ((given_eq_some_iff.mpr alsoGives).symm.trans (given_eq_some_iff.mpr gives))
  · exact mem_given_iff.mpr ⟨rule, member, gives⟩

end Classification

namespace Compiler

open Classification

section

variable [Pattern.Edition] {α : Type} (scoring : Scoring α) {rules : List Rule}
  {uses more : List Use}

theorem History.ofUses_compile (uses : List Use) (rules : List Rule) :
    (ofUses scoring (uses ++ rules.map .compile)).compiler =
      rules.foldl Compiler.asked (ofUses scoring uses).compiler := by
  rw [ofUses, List.foldl_append, List.foldl_map, ← ofUses]
  generalize ofUses scoring uses = history
  induction rules generalizing history with
  | nil => rfl
  | cons rule rest ih => exact ih _

theorem History.ofUses_answersOwn (distinct : (rules.map Rule.id).Nodup)
    (inside : ∀ use ∈ uses, ∀ rule ∈ use.about, rule ∈ rules) :
    (ofUses scoring uses).compiler.AnswersOwn rules :=
  (ofUses_holds scoring uses).remembers.answersOwn (ofUses_within scoring inside) distinct

/-- Rules have ids of their own and patterns that do not fail to give a matcher, and a compiler is used
for them alone. After some uses they are listed with their statuses, and after more uses, such as
the listing, texts are scored. Then only active rules have a part in scoring, and one that is the
only one of its category has a result in each text that has results and in which its pattern is
found. A text has results exactly if the matches of all rules with category and weight can be
counted, and nothing but a group that ends before it begins prevents that. -/
theorem status_foretells (distinct : (rules.map Rule.id).Nodup)
    (compiles : ∀ rule ∈ rules, ∃ matcher, ({} : Compiler).answer rule = .ok matcher)
    (inside : ∀ use ∈ uses ++ more, ∀ rule ∈ use.about, rule ∈ rules) :
    let compiler := (History.ofUses scoring (uses ++ more)).compiler
    (∃ matcherOf : Rule → Matcher,
      (History.ofUses scoring uses).compiler.withStatuses rules =
        (.ok (rules.map fun rule => (rule, rule.status (matcherOf rule))),
          (History.ofUses scoring (uses ++ rules.map .compile)).compiler) ∧
      ∀ rule ∈ rules,
        compiler.answer rule = .ok (matcherOf rule) ∧
        (rule.status (matcherOf rule) ≠ .active → IsIdle scoring compiler rules rule) ∧
        (rule.status (matcherOf rule) = .active → IsHeard scoring compiler rules rule)) ∧
    ∀ text,
      ((∃ results, (classify scoring compiler text rules).1 = .ok results) ↔
        ∀ rule ∈ rules, isScored rule → rule.CanCount text) ∧
      ∀ failure, (classify scoring compiler text rules).1 = .error failure →
        failure = .reversedGroup := by
  intro compiler
  have own : compiler.AnswersOwn rules := History.ofUses_answersOwn scoring distinct inside
  have ownBefore : (History.ofUses scoring uses).compiler.AnswersOwn rules :=
    History.ofUses_answersOwn scoring distinct fun use member =>
      inside use (List.mem_append_left more member)
  simp only [answer_of_empty] at compiles
  constructor
  · choose! matcherOf made using compiles
    refine ⟨matcherOf, ?_, fun rule member => ⟨?_, ?_, ?_⟩⟩
    · rw [ownBefore.withStatuses distinct made, History.ofUses_compile]
    · exact (own rule member).trans (made rule member)
    · exact isIdle_of_inactive scoring distinct own member (made rule member)
    · exact isHeard_of_active scoring distinct own member
  · intro text
    refine ⟨?_, fun failure => classify_failure scoring text distinct own compiles⟩
    rw [classify_own scoring text distinct own]
    exact classify_returns_iff distinct

end

theorem status_foretells_alpha :
    let active : Rule :=
      { id := "one", pattern := some "alpha", category := some "letters", weight := some 1.0 }
    let invalid : Rule :=
      { id := "two", pattern := some "(", category := some "brackets", weight := some 1.0 }
    let incomplete : Rule := { id := "three", pattern := some "alpha", weight := some 1.0 }
    let rules := [active, invalid, incomplete]
    let uses : List Use := [.classify "alpha" rules, .compile invalid]
    let more : List Use := [.clear, .classify "(" rules]
    let compiler := (History.ofUses .density (uses ++ more)).compiler
    ((History.ofUses .density uses).compiler.withStatuses rules).1 =
      .ok [(active, .active), (invalid, .invalid), (incomplete, .incomplete)] ∧
    (∃ results, (classify .density compiler "alpha" rules).1 = .ok results ∧
      ∃ result ∈ results, Gives .density "alpha" active result) ∧
    IsIdle .density compiler rules invalid ∧ IsIdle .density compiler rules incomplete := by
  intro active invalid incomplete rules uses more compiler
  obtain ⟨alpha, madeAlpha, works⟩ :
      ∃ matcher, Matcher.ofPattern (some "alpha") = .ok matcher ∧ matcher.isBroken = false :=
    except_map_eq_ok.mp (by cbv)
  have rejected : Pattern.compile "(" = .error (.rejected ⟨.unterminatedGroup, some 0⟩) := by cbv
  obtain ⟨bracket, madeBracket, broken⟩ :
      ∃ matcher, Matcher.ofPattern (some "(") = .ok matcher ∧ matcher.isBroken := by
    simp [Matcher.ofPattern, rejected, Matcher.isBroken]
  have distinct : (rules.map Rule.id).Nodup := by decide
  have compiles : ∀ rule ∈ rules, ∃ matcher, ({} : Compiler).answer rule = .ok matcher := by
    simp only [rules, List.forall_mem_cons, answer_of_empty]
    exact ⟨⟨alpha, madeAlpha⟩, ⟨bracket, madeBracket⟩, ⟨alpha, madeAlpha⟩,
      fun _ member => absurd member List.not_mem_nil⟩
  have inside : ∀ use ∈ uses ++ more, ∀ rule ∈ use.about, rule ∈ rules := by
    simp [uses, more, Use.about, rules]
  obtain ⟨⟨matcherOf, listed, told⟩, scored⟩ := status_foretells .density distinct compiles inside
  have own : compiler.AnswersOwn rules := History.ofUses_answersOwn .density distinct inside
  have same (rule : Rule) (member : rule ∈ rules) {matcher : Matcher}
      (made : Matcher.ofPattern rule.pattern = .ok matcher) : matcherOf rule = matcher :=
    Except.ok.inj ((told rule member).1.symm.trans ((own rule member).trans made))
  have firstIs : active ∈ rules := by simp [rules]
  have secondIs : invalid ∈ rules := by simp [rules]
  have thirdIs : incomplete ∈ rules := by simp [rules]
  have isActive : active.status (matcherOf active) = .active :=
    Rule.status_eq_active_iff.mpr ⟨rfl, by simp [same active firstIs madeAlpha, works]⟩
  have isInvalid : invalid.status (matcherOf invalid) = .invalid := by
    simp [Rule.status, same invalid secondIs madeBracket, broken, invalid]
  have isIncomplete : incomplete.status (matcherOf incomplete) = .incomplete := by
    simp [Rule.status, Rule.isComplete, same incomplete thirdIs madeAlpha, works, incomplete]
  have counted : ∀ rule ∈ rules, isScored rule → rule.CanCount "alpha" := by
    simp only [rules, List.forall_mem_cons, canCount_iff]
    refine ⟨fun _ => ⟨1, hits_alpha rfl⟩, fun _ => ⟨0, ?_⟩, fun _ => ⟨1, hits_alpha rfl⟩,
      fun _ member => absurd member List.not_mem_nil⟩
    rw [hits_empty, madeBracket]
    exact (Matcher.isSilent_of_isBroken broken "alpha").2
  have sole : ∀ other ∈ rules, other.category = active.category → other = active := by
    simp [rules, active, invalid, incomplete]
  have occurs : active.OccursIn "alpha" := by
    have once : hits "alpha" {} active = .ok 1 := hits_alpha rfl
    rw [hits_empty, madeAlpha] at once
    exact ⟨alpha, madeAlpha, Matcher.occursIn_of_count once⟩
  refine ⟨?_, ?_, (told invalid secondIs).2.1 (by simp [isInvalid]),
    (told incomplete thirdIs).2.1 (by simp [isIncomplete])⟩
  · rw [listed]
    simp only [rules, List.map_cons, List.map_nil, isActive, isInvalid, isIncomplete]
  · obtain ⟨results, ended⟩ := (scored "alpha").1.mpr counted
    exact ⟨results, ended, (told active firstIs).2.2 isActive sole "alpha" results occurs ended⟩

/-- An active rule can be found in a text and have no result for it, as its matches cannot be
counted. -/
theorem reversed_group_not_classified :
    let rule : Rule :=
      { id := "r", pattern := some "a|((x)|y|z)++", category := some "c", weight := some 1.0 }
    (∃ matcher, ({} : Compiler).answer rule = .ok matcher ∧ rule.status matcher = .active ∧
      matcher.occursIn "a xyz" = .ok true) ∧
    (classify .density {} "a xyz" [rule]).1 = .error .reversedGroup := by
  intro rule
  obtain ⟨matcher, made, occurs⟩ :
      ∃ matcher, Matcher.ofPattern rule.pattern = .ok matcher ∧ matcher.occursIn "a xyz" = .ok true :=
    except_bind_eq_ok.mp (by cbv)
  have counted : hits "a xyz" {} rule = .error .reversedGroup := by
    rw [hits_empty]
    cbv
  refine ⟨⟨matcher, (answer_of_empty rule).trans made, Rule.status_eq_active_iff.mpr ⟨rfl, ?_⟩,
    occurs⟩, ?_⟩
  · intro broken
    have silent := (Matcher.isSilent_of_isBroken broken "a xyz").1
    exact absurd (silent.symm.trans occurs) (by simp)
  · rw [classify_singleton .density "a xyz" {} rfl rfl, counted]
    rfl

end Compiler

end Rulebook
