import Rulebook.Rule.Matcher
import Rulebook.Sorting
import Rulebook.Text.Blank

/-!
Scoring a text against rules: each category that matches gets the confidence of its best rule.

The way in which weight, matches and words make a confidence is a parameter (`Scoring`);
`Scoring.density` is the one in use.
-/

namespace Rulebook

structure Classification (α : Type) where
  category : String
  confidence : α
  ruleId : String
  deriving Repr

/-- A measure of confidence for a weight, a number of matches and a number of words, and how two
of them compare. -/
structure Scoring (α : Type) where
  confidence : (weight : Float) → (hits words : Nat) → α
  less : α → α → Bool

section Density

variable {α : Type} [Div α] [OfScientific α] [LT α] [DecidableLT α] (count : Nat → α)

/-- The number of matches from which on a text is full of them: one in ten words, and at least
one. -/
def fullMatches (words : Nat) : α :=
  let tens := count words / 10.0
  if 1.0 > tens then 1.0 else tens

/-- The share of matches among the words, full from one match in ten words on. -/
def matchDensity (hits words : Nat) : α :=
  let share := count hits / fullMatches count words
  if share < 1.0 then share else 1.0

/-- Half of the weight for any match, and the other half in proportion to the density. The weights
and the numbers of matches and words are read as numbers of some kind. -/
def Scoring.proportional [Add α] [Mul α] (weigh : Float → α) : Scoring α where
  confidence weight hits words := weigh weight * (0.5 + 0.5 * matchDensity count hits words)
  less a b := a < b

end Density

/-- The measure in use: all numbers are doubles. -/
def Scoring.density : Scoring Float := .proportional Nat.toFloat id

namespace Classification

variable {α : Type} [Pattern.Edition]

/-- Stores a classification under its category, where it replaces one of less confidence. -/
def keepBest (less : α → α → Bool) (found : Classification α) :
    List (Classification α) → List (Classification α)
  | [] => [found]
  | held :: rest =>
      if held.category = found.category then
        (if less held.confidence found.confidence then found else held) :: rest
      else held :: keepBest less found rest

/-- Scores the rules one after the other; rules without category or weight are passed over. -/
def scoreAll (scoring : Scoring α) (text : String) (words : Nat) (compiler : Compiler)
    (best : List (Classification α)) :
    List Rule → Except Pattern.Failure (List (Classification α)) × Compiler
  | [] => (.ok best, compiler)
  | rule :: rest =>
      match rule.category, rule.weight with
      | some category, some weight =>
          match compiler.compile rule with
          | (.error failure, compiler) => (.error failure, compiler)
          | (.ok matcher, compiler) =>
              match matcher.count text with
              | .error failure => (.error failure, compiler)
              | .ok 0 => scoreAll scoring text words compiler best rest
              | .ok hits =>
                  let found := ⟨category, scoring.confidence weight hits words, rule.id⟩
                  scoreAll scoring text words compiler (keepBest scoring.less found best) rest
      | _, _ => scoreAll scoring text words compiler best rest

/-- The best match of each category, those of the highest confidence first. -/
def classify (scoring : Scoring α) (compiler : Compiler) (text : String) (rules : List Rule) :
    Except Pattern.Failure (List (Classification α)) × Compiler :=
  match scoreAll scoring text (Text.wordCount text) compiler [] rules with
  | (.ok best, compiler) =>
      (.ok (Sorting.descend (fun a b => scoring.less a.confidence b.confidence) best), compiler)
  | (.error failure, compiler) => (.error failure, compiler)

/-- The verdict on a text: the top result, and whether that is too weak to rely on. -/
structure Outcome (α : Type) where
  result : Option (Classification α)
  ambiguous : Bool

/-- Takes the first result; one below the threshold, or none at all, is ambiguous. -/
def decide (less : α → α → Bool) (threshold : α) :
    List (Classification α) → Outcome α
  | [] => ⟨none, true⟩
  | top :: _ => ⟨some top, less top.confidence threshold⟩

/-- Classifies a text and takes the first result. -/
def best (scoring : Scoring α) (compiler : Compiler) (threshold : α) (text : String)
    (rules : List Rule) : Except Pattern.Failure (Outcome α) × Compiler :=
  let (results, compiler) := classify scoring compiler text rules
  (results.map (decide scoring.less threshold), compiler)

end Classification

end Rulebook
