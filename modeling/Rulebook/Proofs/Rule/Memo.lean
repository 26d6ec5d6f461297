import Rulebook.Rule.Matcher

namespace Rulebook

variable [Pattern.Edition]

/-- The matcher made from a pattern, or from the lack of one. -/
def Matcher.ofPattern : Option String → Except Pattern.Failure Matcher
  | none => .ok (broken "missing pattern")
  | some source => match Pattern.compile source with
    | .ok compiled => .ok (pattern compiled)
    | .error (.rejected error) => .ok (broken (error.message source))
    | .error failure => .error failure

/-- A rule gives no more than its pattern to its matcher. -/
theorem Matcher.build_fst (rule : Rule) :
    (Matcher.build rule).map Prod.fst = ofPattern rule.pattern := by
  unfold Matcher.build ofPattern
  cases rule.pattern with
  | none => rfl
  | some source =>
      simp only
      cases Pattern.compile source with
      | ok compiled => rfl
      | error failure => cases failure <;> rfl

namespace Rule

/-- The first rule with an id from whose pattern a matcher is made. -/
def firstBuilt (rules : List Rule) (id : String) : Option Rule :=
  rules.find? fun rule => rule.id == id && (Matcher.ofPattern rule.pattern).isOk

/-- The rule with the pattern of the first of the rules with its id that has a matcher, or with its
own if there is none. -/
def recalled (rules : List Rule) (rule : Rule) : Rule :=
  match firstBuilt rules rule.id with
  | some first => { rule with pattern := first.pattern }
  | none => rule

variable {rules : List Rule} {rule : Rule}

@[simp] theorem recalled_id (rules : List Rule) (rule : Rule) :
    (rule.recalled rules).id = rule.id := by
  unfold recalled
  cases firstBuilt rules rule.id <;> rfl

@[simp] theorem recalled_category (rules : List Rule) (rule : Rule) :
    (rule.recalled rules).category = rule.category := by
  unfold recalled
  cases firstBuilt rules rule.id <;> rfl

@[simp] theorem recalled_weight (rules : List Rule) (rule : Rule) :
    (rule.recalled rules).weight = rule.weight := by
  unfold recalled
  cases firstBuilt rules rule.id <;> rfl

theorem recalled_eq_self
    (agree : ∀ first, firstBuilt rules rule.id = some first → first.pattern = rule.pattern) :
    rule.recalled rules = rule := by
  unfold recalled
  cases found : firstBuilt rules rule.id with
  | none => rfl
  | some first => simp [agree first found]

theorem firstBuilt_some {id : String} {first : Rule} (found : firstBuilt rules id = some first) :
    first ∈ rules ∧ first.id = id ∧ ∃ matcher, Matcher.ofPattern first.pattern = .ok matcher := by
  have passed := List.find?_some found
  simp only [Bool.and_eq_true, beq_iff_eq] at passed
  refine ⟨List.mem_of_find?_eq_some found, passed.1, ?_⟩
  cases made : Matcher.ofPattern first.pattern with
  | ok matcher => exact ⟨matcher, rfl⟩
  | error failure => simp [made, Except.isOk, Except.toBool] at passed

theorem firstBuilt_concat (rules : List Rule) (rule : Rule) (id : String) :
    firstBuilt (rules ++ [rule]) id = (firstBuilt rules id).or
      (if rule.id = id ∧ (Matcher.ofPattern rule.pattern).isOk then some rule else none) := by
  simp [firstBuilt, List.find?_append, List.find?_singleton]

end Rule

namespace Compiler

variable {compiler : Compiler} {rule other : Rule} {rules : List Rule}

/-- What a compiler answers when it is asked for the matcher of a rule. -/
def answer (compiler : Compiler) (rule : Rule) : Except Pattern.Failure Matcher :=
  (compiler.compile rule).1

/-- The compiler after it was asked for the matcher of a rule. -/
def asked (compiler : Compiler) (rule : Rule) : Compiler := (compiler.compile rule).2

theorem answer_eq (compiler : Compiler) (rule : Rule) :
    compiler.answer rule = match compiler.matchers.lookup rule.id with
      | some matcher => .ok matcher
      | none => Matcher.ofPattern rule.pattern := by
  rw [← Matcher.build_fst]
  simp only [answer, compile]
  cases compiler.matchers.lookup rule.id with
  | some matcher => rfl
  | none => cases Matcher.build rule <;> rfl

theorem answer_of_empty (rule : Rule) :
    ({} : Compiler).answer rule = Matcher.ofPattern rule.pattern :=
  answer_eq {} rule

theorem lookup_asked (compiler : Compiler) (rule : Rule) (id : String) :
    (compiler.asked rule).matchers.lookup id =
      if id = rule.id then (compiler.answer rule).toOption else compiler.matchers.lookup id := by
  simp only [answer, asked, compile]
  cases held : compiler.matchers.lookup rule.id with
  | some matcher =>
      by_cases same : id = rule.id
      · simp [same, held, Except.toOption]
      · simp [same]
  | none =>
      cases Matcher.build rule with
      | ok made =>
          by_cases same : id = rule.id
          · simp [same, held, List.lookup_append, Except.toOption]
          · have passed : (id == rule.id) = false := beq_eq_false_iff_ne.mpr same
            simp [List.lookup_append, List.lookup_cons, passed, same]
      | error failure =>
          by_cases same : id = rule.id
          · simp [same, held, Except.toOption]
          · simp [same]

/-- An answer that is a matcher is given again to all rules with the same id, and nothing else
changes. -/
theorem answer_asked (compiler : Compiler) (rule other : Rule) :
    (compiler.asked rule).answer other =
      if other.id = rule.id ∧ (compiler.answer rule).isOk then compiler.answer rule
      else compiler.answer other := by
  rw [answer_eq, lookup_asked]
  by_cases same : other.id = rule.id
  · cases answered : compiler.answer rule with
    | ok matcher => simp [same, Except.toOption, Except.isOk, Except.toBool]
    | error failure =>
        have unknown : compiler.matchers.lookup rule.id = none := by
          cases held : compiler.matchers.lookup rule.id with
          | none => rfl
          | some matcher => simp [answer_eq, held] at answered
        simp [same, Except.toOption, Except.isOk, Except.toBool, answer_eq, unknown]
  · simp [same, answer_eq]

/-- The compiler holds, for each id, the matcher of the first of the rules that has one. -/
def Remembers (compiler : Compiler) (rules : List Rule) : Prop :=
  ∀ id, compiler.matchers.lookup id =
    (Rule.firstBuilt rules id).bind fun first => (Matcher.ofPattern first.pattern).toOption

theorem remembers_nil (empty : compiler.matchers = []) : compiler.Remembers [] := by
  intro id
  simp [empty, Rule.firstBuilt]

/-- A rule gets the matcher of the pattern that is recalled for it. -/
theorem Remembers.answer_eq_recalled (remembers : compiler.Remembers rules) (rule : Rule) :
    compiler.answer rule = Matcher.ofPattern (rule.recalled rules).pattern := by
  rw [answer_eq, remembers rule.id, Rule.recalled]
  cases found : Rule.firstBuilt rules rule.id with
  | none => rfl
  | some first =>
      obtain ⟨-, -, matcher, made⟩ := Rule.firstBuilt_some found
      simp [made, Except.toOption]

theorem Remembers.asked (remembers : compiler.Remembers rules) (rule : Rule) :
    (compiler.asked rule).Remembers (rules ++ [rule]) := by
  intro id
  rw [lookup_asked, Rule.firstBuilt_concat]
  by_cases same : id = rule.id
  · subst same
    rw [if_pos rfl, remembers.answer_eq_recalled, Rule.recalled]
    cases found : Rule.firstBuilt rules rule.id with
    | some first => rfl
    | none =>
        cases made : Matcher.ofPattern rule.pattern <;>
          simp [made, Except.toOption, Except.isOk, Except.toBool]
  · rw [if_neg same, remembers id]
    simp [Ne.symm same]

/-- The memory after rules were asked for one after the other. -/
theorem Remembers.foldl_asked (remembers : compiler.Remembers rules) (more : List Rule) :
    (more.foldl Compiler.asked compiler).Remembers (rules ++ more) := by
  induction more generalizing compiler rules with
  | nil => simpa using remembers
  | cons rule rest ih => simpa using ih (remembers.asked rule)

/-- Each of the rules gets the matcher of its own pattern. -/
def AnswersOwn (compiler : Compiler) (rules : List Rule) : Prop :=
  ∀ rule ∈ rules, compiler.answer rule = Matcher.ofPattern rule.pattern

theorem answersOwn_empty (rules : List Rule) : ({} : Compiler).AnswersOwn rules :=
  fun rule _ => answer_of_empty rule

theorem AnswersOwn.head (own : compiler.AnswersOwn (rule :: rules)) :
    compiler.answer rule = Matcher.ofPattern rule.pattern :=
  own rule List.mem_cons_self

theorem AnswersOwn.tail (own : compiler.AnswersOwn (rule :: rules)) : compiler.AnswersOwn rules :=
  fun other member => own other (List.mem_cons_of_mem rule member)

/-- What is asked for one rule leaves the answers for rules with other ids as they are. -/
theorem AnswersOwn.asked (own : compiler.AnswersOwn (rule :: rules))
    (fresh : rule.id ∉ rules.map Rule.id) : (compiler.asked rule).AnswersOwn rules := by
  intro other member
  have differs : other.id ≠ rule.id := fun same => fresh (List.mem_map.mpr ⟨other, member, same⟩)
  rw [answer_asked, if_neg fun both => differs both.1]
  exact own.tail other member

end Compiler

end Rulebook
