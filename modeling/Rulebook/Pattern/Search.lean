import Rulebook.Pattern.Matching
import Rulebook.Pattern.Reader

/-!
Compiled patterns: whether a text has a match, and how many there are one after the other.
-/

namespace Rulebook

/-- A pattern ready for matching. Case is ignored unless the pattern says otherwise. A match has
at least `leastWidth` characters, and is looked for only where the next character passes the
`opening` test. -/
structure Pattern where
  source : String
  nodes : List Pattern.Node
  leastWidth : Nat := 0
  opening : Option Pattern.CharTest := none
  deriving Inhabited

namespace Pattern

variable [edition : Edition]

def compile (source : String) : Except Failure Pattern := do
  let expression ← Expression.read source
  let nodes ← (sequencePrepare expression.groups expression.flags expression.items).mapError
    Failure.rejected
  if edition = .early && backReachLimit ≤ sequenceBackReach nodes then throw .lookbehindTooFar
  let opening := match firstCode? nodes with
    | some code => some (.char .exact false code)
    | none => sequenceOpeningTest? expression.flags expression.flags expression.items
  let leastWidth := min (sequenceWidth expression.groups expression.items).1 edition.widthLimit
  return { source, nodes, opening, leastWidth }

/-- The code points of a text. -/
def codes (text : String) : Array Nat := (text.toList.map Char.toNat).toArray

/-- What a match leaves that begins at `start` and does not end at `forbidden`. -/
def matchAt (pattern : Pattern) (text : Array Nat) (forbidden : Option Nat) (start : Nat) :
    Option Trace :=
  match run text (sequenceReach text.size pattern.nodes + 1) pattern.nodes (.done forbidden false)
    start { place := start } with
  | (true, trace) => some trace
  | (false, _) => none

/-- A match can begin at the position as far as its first character tells. -/
def opensAt (pattern : Pattern) (text : Array Nat) (position : Nat) : Bool :=
  match pattern.opening with
  | some test => test.acceptsAt text position
  | none => true

/-- The first match that begins at one of `remaining` positions from `start` on: where it begins
and ends. Only at the first of them does `forbidden` hold. -/
def searchAmong (pattern : Pattern) (text : Array Nat) (forbidden : Option Nat) (start : Nat) :
    (remaining : Nat) → Except Failure (Option (Nat × Nat))
  | 0 => .ok none
  | remaining + 1 =>
      let found :=
        if pattern.opensAt text start then pattern.matchAt text forbidden start else none
      match found with
      | some trace =>
          if trace.marks.hasReversedGroup then .error .reversedGroup
          else .ok (some (start, trace.place))
      | none => pattern.searchAmong text none (start + 1) remaining

/-- The first match from `start` on. A match begins at most one position behind the last that
leaves room for the least width, unless its first character tells where it begins. -/
def searchFrom (pattern : Pattern) (text : Array Nat) (forbidden : Option Nat) (start : Nat) :
    Except Failure (Option (Nat × Nat)) :=
  if text.size < start + pattern.leastWidth then .ok none
  else
    let last :=
      if pattern.opening.isSome then text.size
      else max start (text.size - (pattern.leastWidth - 1))
    pattern.searchAmong text forbidden start (last + 1 - start)

/-- Counts matches from `start` on. The match after an empty one must not be empty at the same
position. -/
def countFrom (pattern : Pattern) (text : Array Nat) :
    (fuel : Nat) → Option Nat → Nat → Except Failure Nat
  | 0, _, _ => .ok 0
  | fuel + 1, forbidden, start => do
      match ← pattern.searchFrom text forbidden start with
      | none => return 0
      | some (first, stop) =>
          return (← pattern.countFrom text fuel (if first = stop then some stop else none) stop) + 1

/-- The text has a match somewhere. -/
def occursIn (pattern : Pattern) (text : String) : Except Failure Bool :=
  return (← pattern.searchFrom (codes text) none 0).isSome

/-- The number of matches, each searched where the one before it ends. A search depends on its
start and on whether an empty match is forbidden there, so none is made twice. -/
def count (pattern : Pattern) (text : String) : Except Failure Nat :=
  let text := codes text
  pattern.countFrom text (2 * text.size + 3) none 0

end Pattern

end Rulebook
