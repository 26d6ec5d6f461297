import Rulebook.Classification
import Rulebook.Proofs.Rule.Memo

namespace Rulebook

theorem Sorting.descend_singleton {α : Type} (less : α → α → Bool) (element : α) :
    descend less [element] = [element] := by
  simp [descend, ascend, gather, frontRunOf, frontRun, settleAll]

namespace Classification

variable [Pattern.Edition] {α : Type} (scoring : Scoring α) (text : String)

/-- What a scoring learns about a rule: how often it matches the text. -/
def hits (text : String) (compiler : Compiler) (rule : Rule) : Except Pattern.Failure Nat :=
  compiler.answer rule >>= Matcher.count text

/-- Rules without category or weight are passed over. -/
def isScored (rule : Rule) : Bool := rule.category.isSome && rule.weight.isSome

/-- The rules whose matchers a scoring asks for, up to the one at which it breaks off. -/
def consulted (text : String) (compiler : Compiler) : List Rule → List Rule
  | [] => []
  | rule :: rest =>
      if isScored rule then
        rule :: match hits text compiler rule with
          | .ok _ => consulted text (compiler.asked rule) rest
          | .error _ => []
      else consulted text compiler rest

theorem mem_of_mem_consulted {text : String} {compiler : Compiler} {rules : List Rule} {rule : Rule}
    (member : rule ∈ consulted text compiler rules) : rule ∈ rules := by
  induction rules generalizing compiler with
  | nil => contradiction
  | cons first rest ih =>
      rw [consulted] at member
      split at member
      · rcases List.mem_cons.mp member with rfl | later
        · exact List.mem_cons_self
        · split at later
          · exact List.mem_cons_of_mem first (ih later)
          · contradiction
      · exact List.mem_cons_of_mem first (ih member)

/-- The best classifications once a rule has matched a number of times. -/
def afterHits (words : Nat) (rule : Rule) (category : String) (weight : Float)
    (best : List (Classification α)) : Nat → List (Classification α)
  | 0 => best
  | hits => keepBest scoring.less ⟨category, scoring.confidence weight hits words, rule.id⟩ best

theorem scoreAll_cons (words : Nat) (compiler : Compiler) (best : List (Classification α))
    (rule : Rule) (rest : List Rule) :
    scoreAll scoring text words compiler best (rule :: rest) =
      match rule.category, rule.weight with
      | some category, some weight => match hits text compiler rule with
          | .ok count => scoreAll scoring text words (compiler.asked rule)
              (afterHits scoring words rule category weight best count) rest
          | .error failure => (.error failure, compiler.asked rule)
      | _, _ => scoreAll scoring text words compiler best rest := by
  rw [scoreAll]
  cases rule.category with
  | none => rfl
  | some category =>
      cases rule.weight with
      | none => rfl
      | some weight =>
          simp only [hits, Compiler.answer, Compiler.asked]
          cases compiled : compiler.compile rule with
          | mk result after =>
              cases result with
              | error failure => rfl
              | ok matcher =>
                  simp only [bind, Except.bind]
                  cases matcher.count text with
                  | error failure => rfl
                  | ok count => cases count <;> rfl

omit [Pattern.Edition] in
theorem isScored_iff {rule : Rule} : isScored rule ↔
    ∃ category weight, rule.category = some category ∧ rule.weight = some weight := by
  simp [isScored, Option.isSome_iff_exists]

theorem scoreAll_unscored (words : Nat) (compiler : Compiler) (best : List (Classification α))
    {rule : Rule} (unscored : ¬isScored rule) (rest : List Rule) :
    scoreAll scoring text words compiler best (rule :: rest) =
      scoreAll scoring text words compiler best rest := by
  rw [scoreAll_cons]
  cases filed : rule.category with
  | none => rfl
  | some category =>
      cases weighed : rule.weight with
      | none => rfl
      | some weight => exact absurd (isScored_iff.mpr ⟨category, weight, filed, weighed⟩) unscored

theorem scoreAll_compiler (words : Nat) (compiler : Compiler) (best : List (Classification α))
    (rules : List Rule) :
    (scoreAll scoring text words compiler best rules).2 =
      (consulted text compiler rules).foldl Compiler.asked compiler := by
  induction rules generalizing compiler best with
  | nil => rfl
  | cons rule rest ih =>
      by_cases scored : isScored rule
      · obtain ⟨category, weight, filed, weighed⟩ := isScored_iff.mp scored
        rw [scoreAll_cons, filed, weighed, consulted, if_pos scored]
        cases hits text compiler rule with
        | error failure => rfl
        | ok count => exact ih _ _
      · rw [scoreAll_unscored scoring text words compiler best scored, consulted, if_neg scored, ih]

theorem classify_eq (compiler : Compiler) (rules : List Rule) :
    classify scoring compiler text rules =
      let scored := scoreAll scoring text (Text.wordCount text) compiler [] rules
      (scored.1.map (Sorting.descend fun a b => scoring.less a.confidence b.confidence),
        scored.2) := by
  rw [classify]
  cases scoreAll scoring text (Text.wordCount text) compiler [] rules with
  | mk result after => cases result <;> rfl

theorem classify_compiler (compiler : Compiler) (rules : List Rule) :
    (classify scoring compiler text rules).2 =
      (consulted text compiler rules).foldl Compiler.asked compiler := by
  rw [classify_eq, scoreAll_compiler]

-- Rules that are passed over have no part in a scoring, so that what is asked for and what is
-- found are told from the scored rules alone.

theorem scoreAll_filter (words : Nat) (compiler : Compiler) (best : List (Classification α))
    (rules : List Rule) :
    scoreAll scoring text words compiler best (rules.filter isScored) =
      scoreAll scoring text words compiler best rules := by
  induction rules generalizing compiler best with
  | nil => rfl
  | cons rule rest ih =>
      by_cases scored : isScored rule
      · obtain ⟨category, weight, filed, weighed⟩ := isScored_iff.mp scored
        rw [List.filter_cons_of_pos scored, scoreAll_cons, scoreAll_cons, filed, weighed]
        simp only [ih]
      · rw [List.filter_cons_of_neg scored, scoreAll_unscored scoring text words compiler best scored,
          ih]

theorem classify_filter (compiler : Compiler) (rules : List Rule) :
    classify scoring compiler text (rules.filter isScored) =
      classify scoring compiler text rules := by
  simp only [classify_eq, scoreAll_filter]

theorem consulted_filter (compiler : Compiler) (rules : List Rule) :
    consulted text compiler (rules.filter isScored) = consulted text compiler rules := by
  induction rules generalizing compiler with
  | nil => rfl
  | cons rule rest ih => cases scored : isScored rule <;> simp [scored, consulted, ih]

theorem consulted_singleton (compiler : Compiler) {rule : Rule} (scored : isScored rule) :
    consulted text compiler [rule] = [rule] := by
  rw [consulted, if_pos scored]
  cases hits text compiler rule <;> rfl

theorem classify_singleton (compiler : Compiler) {rule : Rule} {category : String} {weight : Float}
    (filed : rule.category = some category) (weighed : rule.weight = some weight) :
    (classify scoring compiler text [rule]).1 = (hits text compiler rule).map
      (afterHits scoring (Text.wordCount text) rule category weight []) := by
  have empty (less : Classification α → Classification α → Bool) : Sorting.descend less [] = [] :=
    rfl
  rw [classify_eq, scoreAll_cons, filed, weighed]
  cases hits text compiler rule with
  | error failure => rfl
  | ok count =>
      cases count <;> simp only [scoreAll, afterHits, keepBest, Except.map, empty,
        Sorting.descend_singleton]

/-- A change of rules that leaves alone what a scoring reads off the rules themselves. -/
structure KeepsFiling (change : Rule → Rule) : Prop where
  id : ∀ rule, (change rule).id = rule.id
  category : ∀ rule, (change rule).category = rule.category
  weight : ∀ rule, (change rule).weight = rule.weight

omit [Pattern.Edition] in
theorem KeepsFiling.isScored {change : Rule → Rule} (keeps : KeepsFiling change) (rule : Rule) :
    isScored (change rule) = Classification.isScored rule := by
  rw [Classification.isScored, Classification.isScored, keeps.category, keeps.weight]

/-- Two compilers give the same answers for as long as a scoring goes on, the second one to changed
rules. -/
inductive AnswersAlike (text : String) (change : Rule → Rule) :
    Compiler → Compiler → List Rule → Prop
  | done (first second : Compiler) : AnswersAlike text change first second []
  | passed (first second : Compiler) (rule : Rule) (rest : List Rule) (unscored : ¬isScored rule)
      (alike : AnswersAlike text change first second rest) :
      AnswersAlike text change first second (rule :: rest)
  | asked (first second : Compiler) (rule : Rule) (rest : List Rule) (scored : isScored rule)
      (same : first.answer rule = second.answer (change rule))
      (alike : ∀ count, hits text first rule = .ok count →
        AnswersAlike text change (first.asked rule) (second.asked (change rule)) rest) :
      AnswersAlike text change first second (rule :: rest)

section

variable {change : Rule → Rule} (keeps : KeepsFiling change) {first second : Compiler}
  {rules : List Rule}
include keeps

/-- Of a compiler only its answers count. -/
theorem scoreAll_congr (words : Nat) (best : List (Classification α))
    (alike : AnswersAlike text change first second rules) :
    (scoreAll scoring text words first best rules).1 =
      (scoreAll scoring text words second best (rules.map change)).1 := by
  induction alike generalizing best with
  | done first second => rfl
  | passed first second rule rest unscored alike ih =>
      have stillUnscored : ¬isScored (change rule) := by rwa [keeps.isScored]
      rw [List.map_cons, scoreAll_unscored scoring text words first best unscored,
        scoreAll_unscored scoring text words second best stillUnscored, ih]
  | asked first second rule rest scored same alike ih =>
      obtain ⟨category, weight, filed, weighed⟩ := isScored_iff.mp scored
      have counts : hits text second (change rule) = hits text first rule := by
        rw [hits, hits, same]
      rw [List.map_cons, scoreAll_cons, scoreAll_cons, keeps.category, keeps.weight, filed, weighed]
      simp only [counts]
      cases counted : hits text first rule with
      | error failure => rfl
      | ok count =>
          have kept : afterHits scoring words (change rule) category weight best count =
              afterHits scoring words rule category weight best count := by
            cases count <;> simp [afterHits, keeps.id]
          simp only [kept]
          exact ih count counted _

theorem classify_congr (alike : AnswersAlike text change first second rules) :
    (classify scoring first text rules).1 =
      (classify scoring second text (rules.map change)).1 := by
  have scored := scoreAll_congr scoring text keeps (Text.wordCount text) [] alike
  simp only [classify_eq, scored]

/-- Answers that agree for the ids of the rules go on to agree. -/
theorem answersAlike_of_agree (agree : ∀ rule : Rule, rule.id ∈ rules.map Rule.id →
    first.answer rule = second.answer (change rule)) :
    AnswersAlike text change first second rules := by
  induction rules generalizing first second with
  | nil => exact .done first second
  | cons rule rest ih =>
      have own := agree rule (List.mem_cons_self)
      have others (other : Rule) (member : other.id ∈ rest.map Rule.id) :
          first.answer other = second.answer (change other) :=
        agree other (List.mem_cons_of_mem rule.id member)
      by_cases scored : isScored rule
      · refine .asked first second rule rest scored own fun _ _ => ih fun other member => ?_
        rw [Compiler.answer_asked, Compiler.answer_asked, keeps.id, keeps.id, own,
          others other member]
      · exact .passed first second rule rest scored (ih others)

end

theorem keepsFiling_recalled (past : List Rule) : KeepsFiling (Rule.recalled past) :=
  ⟨Rule.recalled_id past, Rule.recalled_category past, Rule.recalled_weight past⟩

/-- A compiler that remembers rules gives the results of an empty one for the rules with the
patterns that are recalled for them. -/
theorem classify_recalled {compiler : Compiler} {past : List Rule}
    (remembers : compiler.Remembers past) (rules : List Rule) :
    (classify scoring compiler text rules).1 =
      (classify scoring {} text (rules.map (Rule.recalled past))).1 := by
  refine classify_congr scoring text (keepsFiling_recalled past) ?_
  refine answersAlike_of_agree text (keepsFiling_recalled past) fun rule _ => ?_
  rw [remembers.answer_eq_recalled, Compiler.answer_of_empty]

end Classification

end Rulebook
