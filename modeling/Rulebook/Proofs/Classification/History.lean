import Rulebook.Proofs.Classification.Recalling
import Rulebook.Proofs.Rule.Answer
import Rulebook.Proofs.Rule.Merge

/-!
A compiler over a run of uses. Matchers are asked for one by one or by scoring texts, and the memory
is cleared now and then. What the compiler holds is told from the rules that it was asked for since
it was last cleared (`Holds`): the ids of those that have a matcher, and for each the matcher of the
first. So a text is scored as if nothing were remembered and each rule had the pattern that was first
compiled for its id, by this scoring or before.
-/

namespace Rulebook

variable [Pattern.Edition]

namespace Rule

/-- A matcher is made from the pattern, or from the lack of one. -/
def isBuilt (rule : Rule) : Bool := (Matcher.ofPattern rule.pattern).isOk

/-- The ids of the rules that have a matcher, in the order in which they first came. -/
def builtIds (rules : List Rule) : List String := (ids (rules.filter isBuilt)).eraseDups

theorem builtIds_concat (rules : List Rule) (rule : Rule) :
    builtIds (rules ++ [rule]) =
      if rule.isBuilt ∧ rule.id ∉ builtIds rules then builtIds rules ++ [rule.id]
      else builtIds rules := by
  rw [builtIds, List.filter_append, ids_append]
  by_cases built : rule.isBuilt
  · have single : ids ([rule].filter isBuilt) = [rule.id] := by simp [ids, built]
    rw [single, eraseDups_concat]
    by_cases known : rule.id ∈ ids (rules.filter isBuilt) <;> simp [builtIds, built, known]
  · simp [builtIds, ids, built]

theorem firstBuilt_append {rules : List Rule} {id : String} {first : Rule}
    (found : firstBuilt rules id = some first) (more : List Rule) :
    firstBuilt (rules ++ more) id = some first := by
  rw [firstBuilt] at found ⊢
  rw [List.find?_append, found, Option.some_or]

/-- The rule as the compiling of rules has settled it: with the pattern that was first compiled for
its id, if that is among those compiled. -/
def settled (past compiled : List Rule) (rule : Rule) : Rule :=
  if rule.id ∈ ids compiled then rule.recalled (past ++ compiled) else rule

theorem keepsFiling_settled (past compiled : List Rule) :
    Classification.KeepsFiling (settled past compiled) := by
  refine ⟨fun rule => ?_, fun rule => ?_, fun rule => ?_⟩ <;>
    rw [settled] <;> split <;> simp

end Rule

namespace Compiler

variable {compiler : Compiler} {rules : List Rule}

/-- The ids that have a matcher, in the order in which they got one. -/
def memoized (compiler : Compiler) : List String := compiler.matchers.map Prod.fst

omit [Pattern.Edition] in
theorem lookup_eq_none_iff (id : String) :
    compiler.matchers.lookup id = none ↔ id ∉ compiler.memoized := by
  rw [List.lookup_eq_none_iff, memoized, List.mem_map, not_exists]
  constructor
  · rintro apart ⟨key, matcher⟩ ⟨held, rfl⟩
    simpa using apart _ held
  · intro absent entry held
    simpa using fun same => absent entry ⟨held, Eq.symm same⟩

theorem memoized_asked (compiler : Compiler) (rule : Rule) :
    (compiler.asked rule).memoized =
      if rule.isBuilt ∧ rule.id ∉ compiler.memoized then compiler.memoized ++ [rule.id]
      else compiler.memoized := by
  have holds := compiler.lookup_eq_none_iff rule.id
  have made := Matcher.build_fst rule
  rw [Rule.isBuilt, ← made, asked, compile]
  cases held : compiler.matchers.lookup rule.id with
  | some matcher =>
      have known : rule.id ∈ compiler.memoized := by simpa [held] using holds
      simp [known]
  | none =>
      have new : rule.id ∉ compiler.memoized := holds.mp held
      cases Matcher.build rule with
      | error failure => simp [Except.map, Except.isOk, Except.toBool]
      | ok built =>
          rw [if_pos ⟨rfl, new⟩]
          simp [memoized]

/-- The compiler holds what comes of asking for rules: an id for each that has a matcher, and the
matcher of the first. -/
structure Holds (compiler : Compiler) (rules : List Rule) : Prop where
  remembers : compiler.Remembers rules
  memoized : compiler.memoized = Rule.builtIds rules

theorem holds_nil (empty : compiler.matchers = []) : compiler.Holds [] := by
  refine ⟨remembers_nil empty, ?_⟩
  rw [Compiler.memoized, empty]
  rfl

theorem Holds.asked (holds : compiler.Holds rules) (rule : Rule) :
    (compiler.asked rule).Holds (rules ++ [rule]) :=
  ⟨holds.remembers.asked rule, by rw [memoized_asked, Rule.builtIds_concat, holds.memoized]⟩

theorem Holds.foldl_asked (holds : compiler.Holds rules) (more : List Rule) :
    (more.foldl Compiler.asked compiler).Holds (rules ++ more) := by
  induction more generalizing compiler rules with
  | nil => simpa using holds
  | cons rule rest ih => simpa using ih (holds.asked rule)

theorem Holds.size_eq (holds : compiler.Holds rules) :
    compiler.size = (Rule.builtIds rules).length := by
  rw [← holds.memoized, Compiler.memoized, List.length_map, size]

/-- While rules are asked for, each gets the matcher of the pattern that is recalled for it in the
end; a rule that gets none is the last. -/
theorem Remembers.answer_recalled {past rest : List Rule} {rule : Rule}
    (remembers : compiler.Remembers past)
    (last : ∀ failure, compiler.answer rule = .error failure → rest = []) :
    compiler.answer rule = Matcher.ofPattern (rule.recalled (past ++ rule :: rest)).pattern := by
  have answered := remembers.answer_eq_recalled rule
  cases before : Rule.firstBuilt past rule.id with
  | some first =>
      have still := Rule.firstBuilt_append before (rule :: rest)
      rw [answered, Rule.recalled, Rule.recalled, before, still]
  | none =>
      have own : rule.recalled past = rule := by rw [Rule.recalled, before]
      rw [own] at answered
      have now := Rule.firstBuilt_concat past rule rule.id
      rw [before, Option.none_or] at now
      cases made : Matcher.ofPattern rule.pattern with
      | ok matcher =>
          have isFirst : Rule.firstBuilt (past ++ [rule]) rule.id = some rule := by
            simpa [made, Except.isOk, Except.toBool] using now
          have still := Rule.firstBuilt_append isFirst rest
          rw [List.append_assoc, List.singleton_append] at still
          rw [answered, Rule.recalled, still]
      | error failure =>
          obtain rfl := last failure (answered.trans made)
          have none : Rule.firstBuilt (past ++ [rule]) rule.id = none := by
            simpa [made, Except.isOk, Except.toBool] using now
          rw [answered, Rule.recalled, none]

/-- One compiler holds what another holds, and maybe more. -/
def Includes (compiler part : Compiler) : Prop :=
  ∀ id matcher, part.matchers.lookup id = some matcher → compiler.matchers.lookup id = some matcher

theorem Includes.asked {part : Compiler} (includes : compiler.Includes part) {rule other : Rule}
    (sameId : other.id = rule.id) (same : compiler.answer rule = part.answer other) :
    (compiler.asked rule).Includes (part.asked other) := by
  intro id matcher held
  rw [lookup_asked, sameId, ← same] at held
  rw [lookup_asked]
  split
  · rwa [if_pos ‹_›] at held
  · rw [if_neg ‹_›] at held
    exact includes id matcher held

inductive Use where
  | compile (rule : Rule)
  | classify (text : String) (rules : List Rule)
  | clear

def Use.about : Use → List Rule
  | compile rule => [rule]
  | classify _ rules => rules
  | clear => []

/-- A compiler, and the rules whose matchers it was asked for since it was last cleared. -/
structure History where
  compiler : Compiler := {}
  asked : List Rule := []

variable {α : Type} (scoring : Scoring α)

def History.extend (history : History) : Use → History
  | .compile rule => ⟨history.compiler.asked rule, history.asked ++ [rule]⟩
  | .classify text rules =>
      ⟨(Classification.classify scoring history.compiler text rules).2,
        history.asked ++ Classification.consulted text history.compiler rules⟩
  | .clear => ⟨history.compiler.clear, []⟩

/-- A new compiler after uses of it. -/
def History.ofUses (uses : List Use) : History := uses.foldl (extend scoring) {}

theorem History.extend_holds {history : History} (holds : history.compiler.Holds history.asked)
    (use : Use) : (history.extend scoring use).compiler.Holds (history.extend scoring use).asked := by
  cases use with
  | compile rule => exact holds.asked rule
  | classify text rules =>
      simpa only [extend, Classification.classify_compiler] using holds.foldl_asked _
  | clear => exact holds_nil rfl

theorem History.extend_within {history : History} {use : Use}
    (within : ∀ rule ∈ history.asked, rule ∈ rules) (inside : ∀ rule ∈ use.about, rule ∈ rules) :
    ∀ rule ∈ (history.extend scoring use).asked, rule ∈ rules := by
  intro rule member
  cases use with
  | compile added =>
      rcases List.mem_append.mp member with earlier | now
      · exact within rule earlier
      · exact inside rule now
  | classify text scored =>
      rcases List.mem_append.mp member with earlier | now
      · exact within rule earlier
      · exact inside rule (Classification.mem_of_mem_consulted now)
  | clear => contradiction

theorem History.ofUses_keeps {motive : History → Prop} {uses : List Use} (empty : motive {})
    (step : ∀ history, ∀ use ∈ uses, motive history → motive (history.extend scoring use)) :
    motive (ofUses scoring uses) := by
  suffices onward : ∀ history, motive history → motive (uses.foldl (extend scoring) history) from
    onward {} empty
  induction uses with
  | nil => exact fun _ holds => holds
  | cons use rest ih =>
      intro history holds
      refine ih (fun history use member => step history use (List.mem_cons_of_mem _ member)) _ ?_
      exact step history use List.mem_cons_self holds

theorem History.ofUses_holds (uses : List Use) :
    (ofUses scoring uses).compiler.Holds (ofUses scoring uses).asked :=
  ofUses_keeps scoring (motive := fun history => history.compiler.Holds history.asked)
    (holds_nil rfl) fun _ use _ holds => extend_holds scoring holds use

theorem History.ofUses_within {uses : List Use}
    (inside : ∀ use ∈ uses, ∀ rule ∈ use.about, rule ∈ rules) :
    ∀ rule ∈ (ofUses scoring uses).asked, rule ∈ rules :=
  ofUses_keeps scoring (motive := fun history => ∀ rule ∈ history.asked, rule ∈ rules)
    (fun _ member => absurd member List.not_mem_nil)
    fun _ use member within => extend_within scoring within (inside use member)

end Compiler

namespace Classification

open Compiler

variable {α : Type} (scoring : Scoring α) (text : String)

theorem answer_of_consulted {compiler : Compiler} {past seen rest : List Rule} {rule : Rule}
    (remembers : compiler.Remembers (past ++ seen)) (scored : isScored rule) :
    compiler.answer rule = Matcher.ofPattern
      (rule.settled past (seen ++ consulted text compiler (rule :: rest))).pattern := by
  rw [consulted, if_pos scored, Rule.settled, if_pos, ← List.append_assoc]
  · refine remembers.answer_recalled fun failure failed => ?_
    rw [hits, failed]
    rfl
  · rw [Rule.ids_append]
    exact List.mem_append_right _ List.mem_cons_self

/-- A compiler gives to rules the answers that one with a part of its memory gives to them as they
are settled in the end. -/
theorem answersAlike_settled {compiler part : Compiler} {past compiled seen rules : List Rule}
    (remembers : compiler.Remembers (past ++ seen))
    (whole : compiled = seen ++ consulted text compiler rules) (includes : compiler.Includes part) :
    AnswersAlike text (Rule.settled past compiled) compiler part rules := by
  -- What the scoring has compiled so far is a front of all that it compiles.
  have keeps := Rule.keepsFiling_settled past compiled
  induction rules generalizing compiler part seen with
  | nil => exact .done compiler part
  | cons rule rest ih =>
      by_cases scored : isScored rule
      · have same : compiler.answer rule = part.answer (rule.settled past compiled) := by
          rw [answer_eq part, keeps.id]
          cases held : part.matchers.lookup rule.id with
          | some matcher => rw [answer_eq, includes _ _ held]
          | none => exact whole ▸ answer_of_consulted text remembers scored
        rw [consulted, if_pos scored] at whole
        refine .asked compiler part rule rest scored same fun count counted => ?_
        rw [counted] at whole
        have longer : (compiler.asked rule).Remembers (past ++ (seen ++ [rule])) := by
          simpa using remembers.asked rule
        exact ih longer (by simpa using whole) (includes.asked (keeps.id rule) same)
      · rw [consulted, if_neg scored] at whole
        exact .passed compiler part rule rest scored (ih remembers whole includes)

end Classification

namespace Compiler

variable {α : Type} (scoring : Scoring α)

/-- After any uses a rule gets the matcher of the first rule with its id that has one, itself
included, among those asked for since the compiler was last cleared; if there is none, its pattern
fails, and the compiler is left as it was. There is a matcher for each id of these rules, failing
ones apart. And a text is scored as with a new compiler and the pattern, for each rule, that was
first compiled for its id, if the scoring compiles any for it. -/
theorem keeps_first_built (uses : List Use) :
    let history := History.ofUses scoring uses
    let compiler := history.compiler
    (∀ rule, compiler.answer rule = Matcher.ofPattern
      ((Rule.firstBuilt (history.asked ++ [rule]) rule.id).getD rule).pattern) ∧
    compiler.size = (Rule.builtIds history.asked).length ∧
    (∀ rule failure, compiler.answer rule = .error failure → compiler.asked rule = compiler) ∧
    ∀ text rules,
      (Classification.classify scoring compiler text rules).1 =
        (Classification.classify scoring {} text (rules.map
          (Rule.settled history.asked (Classification.consulted text compiler rules)))).1 := by
  intro history compiler
  have holds := History.ofUses_holds scoring uses
  refine ⟨fun rule => ?_, holds.size_eq, fun rule failure => asked_of_error, fun text rules => ?_⟩
  · have answered : compiler.answer rule =
        Matcher.ofPattern (rule.recalled (history.asked ++ [rule])).pattern :=
      holds.remembers.answer_recalled fun _ _ => rfl
    rw [answered, Rule.recalled]
    cases Rule.firstBuilt (history.asked ++ [rule]) rule.id <;> rfl
  · have remembers : compiler.Remembers (history.asked ++ []) := by simpa using holds.remembers
    refine Classification.classify_congr scoring text (Rule.keepsFiling_settled _ _) ?_
    refine Classification.answersAlike_settled text remembers rfl fun id matcher held => ?_
    exact absurd held.symm (Option.some_ne_none matcher)

end Compiler

end Rulebook
