import Rulebook.Log
import Rulebook.Pattern.Search
import Rulebook.Rule.Basic

/-!
Matchers of rules, and a memory of those made before. A rule that is matched again gets the
matcher first made for its id, whatever its pattern is by then.
-/

namespace Rulebook

variable [Pattern.Edition]

/-- What stands for a rule's pattern when texts are scored; a broken one matches nothing. -/
inductive Matcher where
  | pattern (pattern : Pattern)
  | broken (message : String)
  deriving Inhabited

namespace Matcher

def isBroken : Matcher → Bool
  | .pattern _ => false
  | .broken _ => true

def occursIn (text : String) : Matcher → Except Pattern.Failure Bool
  | .pattern compiled => compiled.occursIn text
  | .broken _ => .ok false

def count (text : String) : Matcher → Except Pattern.Failure Nat
  | .pattern compiled => compiled.count text
  | .broken _ => .ok 0

/-- Makes the matcher of a rule, with the warnings about it. Only what is no error of the pattern
fails. -/
def build (rule : Rule) : Except Pattern.Failure (Matcher × List LogLine) :=
  match rule.pattern with
  | none =>
      .ok (broken "missing pattern",
        [⟨.warning, s!"Rule {rule.id} has no pattern, it will never match"⟩])
  | some source =>
      match Pattern.compile source with
      | .ok compiled => .ok (pattern compiled, [])
      | .error (.rejected error) =>
          let message := error.message source
          .ok (broken message, [⟨.warning, s!"Invalid pattern for rule {rule.id}: {message}"⟩])
      | .error failure => .error failure

end Matcher

/-- The matchers made so far, by the ids of their rules, and the log. -/
structure Compiler where
  matchers : List (String × Matcher) := []
  log : List LogLine := []

namespace Compiler

def size (compiler : Compiler) : Nat := compiler.matchers.length

/-- The matcher for a rule's id, made if there is none. A failure leaves all as it was. -/
def compile (compiler : Compiler) (rule : Rule) :
    Except Pattern.Failure Matcher × Compiler :=
  match compiler.matchers.lookup rule.id with
  | some matcher => (.ok matcher, compiler)
  | none =>
      match Matcher.build rule with
      | .ok (matcher, log) =>
          (.ok matcher, ⟨compiler.matchers ++ [(rule.id, matcher)], compiler.log ++ log⟩)
      | .error failure => (.error failure, compiler)

/-- Forgets all matchers. -/
def clear (compiler : Compiler) : Compiler := { compiler with matchers := [] }

end Compiler

/-- How a rule is shown in the list of rules. -/
inductive Rule.Status where
  | active
  | incomplete
  | invalid
  deriving DecidableEq, Repr

def Rule.Status.name : Rule.Status → String
  | active => "active"
  | incomplete => "incomplete"
  | invalid => "invalid"

/-- The status of a rule with its matcher: a pattern that cannot be matched is worse than a field
that is missing. -/
def Rule.status (rule : Rule) (matcher : Matcher) : Rule.Status :=
  if rule.pattern.isSome && matcher.isBroken then .invalid
  else if !rule.isComplete then .incomplete
  else .active

/-- Rules with their statuses, all found by one compiler. -/
def Compiler.withStatuses (compiler : Compiler) :
    List Rule → Except Pattern.Failure (List (Rule × Rule.Status)) × Compiler
  | [] => (.ok [], compiler)
  | rule :: rest =>
      match compiler.compile rule with
      | (.error failure, compiler) => (.error failure, compiler)
      | (.ok matcher, compiler) =>
          let (more, compiler) := compiler.withStatuses rest
          (more.map ((rule, rule.status matcher) :: ·), compiler)

end Rulebook
