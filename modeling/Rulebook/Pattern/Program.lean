import Rulebook.Pattern.CharTest
import Rulebook.Pattern.Error

/-!
Patterns made ready for matching: flags are resolved, groups have become marks at their ends, and
repetitions of a single character are told apart from all others.
-/

namespace Rulebook.Pattern

/-- Two editions of the language of patterns are in use. In the early one a possessive repetition
stays where its last turn got to before it failed; in the current one it goes back to where that
turn began. And look-behinds cannot go back as far in the early one. -/
@[class] inductive Edition where
  | early
  | current
  deriving DecidableEq, Repr

/-- Patterns are those of the current edition where no other is given. -/
instance : Edition := .current

/-- A condition on a position of the text. -/
inductive PlaceTest where
  | textStart
  | lineStart
  | textEnd
  /-- The end, or before a line end that is the last character. -/
  | lastLineEnd
  | lineEnd
  | boundary (ascii negated : Bool)
  deriving DecidableEq, Repr

inductive Node where
  | one (test : CharTest)
  | place (test : PlaceTest)
  /-- Group `i` begins at mark `2 * (i - 1)` and ends at the mark after it. -/
  | mark (index : Nat)
  | repeatOne (greed : Greed) (least : Nat) (most : Option Nat) (test : CharTest)
  | repeatMany (greed : Greed) (least : Nat) (most : Option Nat) (body : List Node)
  | atomic (body : List Node)
  /-- The body matches, or does not match, `back` characters before the position. -/
  | look (back : Nat) (negated : Bool) (body : List Node)
  | backReference (group : Nat) (folding : Folding)
  | conditional (group : Nat) (present absent : List Node)
  /-- Each alternative ends in a joint. -/
  | branch (alternatives : List (List Node))
  /-- Where ways that have parted come together. -/
  | joint
  deriving Inhabited

def Greed.operatorName : Greed → String
  | greedy => "MAX_REPEAT"
  | lazy => "MIN_REPEAT"
  | possessive => "POSSESSIVE_REPEAT"

def Anchor.placeTest (flags : Flags) : Anchor → PlaceTest
  | textStart => .textStart
  | lineStart => if flags.multiline then .lineStart else .textStart
  | textEnd => .textEnd
  | lineEnd => if flags.multiline then .lineEnd else .lastLineEnd
  | boundary => .boundary (!flags.unicode) false
  | notBoundary => .boundary (!flags.unicode) true

/-- The largest width that is told of a pattern or a look-behind. -/
def Edition.widthLimit : Edition → Nat
  | early => 4294967294
  | current => 4294967295

/-- How far a look-behind goes back whose body has the given widths. -/
def Edition.lookbehindWidth (edition : Edition) (low high : Nat) : Except Error Nat := do
  if edition = .current && edition.widthLimit < low then throw ⟨.distantLookbehind, none⟩
  if low ≠ high || edition.widthLimit < low then throw ⟨.variableLookbehind, none⟩
  return low

/-- A body that is one test of a character. -/
def singleTest? : List Node → Option CharTest
  | [.one test] => some test
  | _ => none

section Preparing

variable [edition : Edition]

mutual

/-- Prepares an item under the given flags. -/
def Item.prepare (groups : List (Option (Nat × Nat))) (flags : Flags) :
    Item → Except Error (List Node)
  | .char code => .ok [.one (.char flags.folding false code)]
  | .notChar code => .ok [.one (.char flags.folding true code)]
  | .set negated members => .ok [.one (.set flags.folding (!flags.unicode) negated members)]
  | .any => .ok [.one (.dot flags.dotAll)]
  | .anchor anchor => .ok [.place (anchor.placeTest flags)]
  | .repetition greed least most body => do
      if flags.template then throw ⟨.templateRepeat greed.operatorName, none⟩
      let body ← sequencePrepare groups flags body
      match singleTest? body with
      | some test => return [.repeatOne greed least most test]
      | none => return [.repeatMany greed least most body]
  | .group index added removed body => do
      let body ← sequencePrepare groups (flags.within added removed) body
      match index with
      | some group => return .mark (2 * (group - 1)) :: body ++ [.mark (2 * (group - 1) + 1)]
      | none => return body
  | .atomic body => return [.atomic (← sequencePrepare groups flags body)]
  | .look ahead negated body => do
      let (low, high) := sequenceWidth groups body
      let back ← if ahead then pure 0 else edition.lookbehindWidth low high
      return [.look back negated (← sequencePrepare groups flags body)]
  | .backReference group => .ok [.backReference group flags.folding]
  | .conditional group present absent => do
      let present ← sequencePrepare groups flags present
      match absent with
      | some absent =>
          return [.conditional group (present ++ [.joint]) (← sequencePrepare groups flags absent)]
      | none => return [.conditional group present []]
  | .branch alternatives => return [.branch (← branchPrepare groups flags alternatives)]

def sequencePrepare (groups : List (Option (Nat × Nat))) (flags : Flags) :
    List Item → Except Error (List Node)
  | [] => .ok []
  | item :: rest => do
      let first ← item.prepare groups flags
      return first ++ (← sequencePrepare groups flags rest)

def branchPrepare (groups : List (Option (Nat × Nat))) (flags : Flags) :
    List (List Item) → Except Error (List (List Node))
  | [] => .ok []
  | alternative :: rest => do
      let first ← sequencePrepare groups flags alternative
      return (first ++ [.joint]) :: (← branchPrepare groups flags rest)

end

end Preparing

mutual

/-- How far look-behinds within a node go back at most. -/
def Node.backReach : Node → Nat
  | .repeatMany _ _ _ body | .atomic body => sequenceBackReach body
  | .look back _ body => max back (sequenceBackReach body)
  | .conditional _ present absent => max (sequenceBackReach present) (sequenceBackReach absent)
  | .branch alternatives => branchBackReach alternatives
  | _ => 0

def sequenceBackReach : List Node → Nat
  | [] => 0
  | node :: rest => max node.backReach (sequenceBackReach rest)

def branchBackReach : List (List Node) → Nat
  | [] => 0
  | alternative :: rest => max (sequenceBackReach alternative) (branchBackReach rest)

end

/-- In the early edition look-behinds reach less far than this. -/
def backReachLimit : Nat := 2147483648

mutual

/-- A bound on the steps along one way through a node, for texts of the given length. A repetition
goes on past its least count only while it moves on, or once more. -/
def Node.reach (length : Nat) : Node → Nat
  | .repeatMany _ least _ body => (least + length + 3) * (sequenceReach length body + 2)
  | .atomic body => sequenceReach length body + 2
  | .look _ _ body => sequenceReach length body + 2
  | .conditional _ present absent => sequenceReach length present + sequenceReach length absent + 2
  | .branch alternatives => branchReach length alternatives + 2
  | _ => 2

def sequenceReach (length : Nat) : List Node → Nat
  | [] => 1
  | node :: rest => node.reach length + sequenceReach length rest

def branchReach (length : Nat) : List (List Node) → Nat
  | [] => 0
  | alternative :: rest => sequenceReach length alternative + branchReach length rest

end

/-- The character with which every match begins, where it stands at the front by itself. -/
def firstCode? : List Node → Option Nat
  | .mark _ :: rest => firstCode? rest
  | .one test :: _ => test.onlyCode?
  | _ => none

/-- The character without case with which a sequence begins. -/
def frontCode? (flags : Flags) : List Item → Option Nat
  | .char code :: _ => if flags.folding.isCased code then none else some code
  | _ => none

mutual

/-- What the first character of a match has to pass, where this does not depend on case. Classes of
characters in it are those of the `whole` pattern, even in a group with flags of its own. -/
def Item.openingTest? (whole flags : Flags) : Item → Option CharTest
  | .char code => (frontCode? flags [.char code]).map (.char .exact false)
  | .set negated members =>
      if members.any (CharTest.itemHasCase flags.folding) then none
      else some (.set .exact (!whole.unicode) negated members)
  | .branch alternatives => do
      let codes ← alternatives.mapM (frontCode? flags)
      return .set .exact false false (codes.map .char)
  | .group _ added removed body => sequenceOpeningTest? whole (flags.within added removed) body
  | _ => none

def sequenceOpeningTest? (whole flags : Flags) : List Item → Option CharTest
  | [] => none
  | item :: _ => item.openingTest? whole flags

end

end Rulebook.Pattern
