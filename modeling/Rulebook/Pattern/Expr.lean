/-!
Regular expressions as they are written, before flags are applied to them.
-/

namespace Rulebook.Pattern

/-- Flags that a pattern can turn on: `i`, `m`, `s`, `x`, `a`, `u` and `t`. -/
structure Flags where
  ignoreCase : Bool := false
  multiline : Bool := false
  dotAll : Bool := false
  verbose : Bool := false
  ascii : Bool := false
  unicode : Bool := false
  template : Bool := false
  deriving DecidableEq, Repr, Inhabited

namespace Flags

def none : Flags := {}

def union (a b : Flags) : Flags where
  ignoreCase := a.ignoreCase || b.ignoreCase
  multiline := a.multiline || b.multiline
  dotAll := a.dotAll || b.dotAll
  verbose := a.verbose || b.verbose
  ascii := a.ascii || b.ascii
  unicode := a.unicode || b.unicode
  template := a.template || b.template

def intersection (a b : Flags) : Flags where
  ignoreCase := a.ignoreCase && b.ignoreCase
  multiline := a.multiline && b.multiline
  dotAll := a.dotAll && b.dotAll
  verbose := a.verbose && b.verbose
  ascii := a.ascii && b.ascii
  unicode := a.unicode && b.unicode
  template := a.template && b.template

def minus (a b : Flags) : Flags where
  ignoreCase := a.ignoreCase && !b.ignoreCase
  multiline := a.multiline && !b.multiline
  dotAll := a.dotAll && !b.dotAll
  verbose := a.verbose && !b.verbose
  ascii := a.ascii && !b.ascii
  unicode := a.unicode && !b.unicode
  template := a.template && !b.template

def isNone (flags : Flags) : Bool := flags == none

/-- The flags inside a group that adds some and removes some. The character classes are those of
one flag only. -/
def within (outer added removed : Flags) : Flags :=
  let outer := if added.ascii || added.unicode then
    { outer with ascii := false, unicode := false } else outer
  (outer.union added).minus removed

end Flags

inductive Category where
  | digit
  | space
  | word
  deriving DecidableEq, Repr

/-- A member of a character set. -/
inductive SetItem where
  | char (code : Nat)
  | range (first last : Nat)
  | category (category : Category) (negated : Bool)
  deriving DecidableEq, Repr

inductive Anchor where
  | lineStart
  | textStart
  | lineEnd
  | textEnd
  | boundary
  | notBoundary
  deriving DecidableEq, Repr

inductive Greed where
  | greedy
  | lazy
  | possessive
  deriving DecidableEq, Repr

/-- An element of a sequence. Groups are counted from one; a group without an index captures
nothing. A repetition without `most` has no upper end. -/
inductive Item where
  | char (code : Nat)
  | notChar (code : Nat)
  | set (negated : Bool) (members : List SetItem)
  | any
  | anchor (anchor : Anchor)
  | repetition (greed : Greed) (least : Nat) (most : Option Nat) (body : List Item)
  | group (index : Option Nat) (added removed : Flags) (body : List Item)
  | atomic (body : List Item)
  | look (ahead negated : Bool) (body : List Item)
  | backReference (group : Nat)
  | conditional (group : Nat) (present : List Item) (absent : Option (List Item))
  | branch (alternatives : List (List Item))
  deriving Inhabited

namespace Item

def isAnchor : Item → Bool
  | anchor _ => true
  | _ => false

def isRepetition : Item → Bool
  | repetition .. => true
  | _ => false

/-- Equality of items that contain no other items; those that do count as different. -/
def sameLeaf : Item → Item → Bool
  | char a, char b => a == b
  | notChar a, notChar b => a == b
  | set m a, set n b => m == n && a == b
  | any, any => true
  | anchor a, anchor b => a == b
  | backReference a, backReference b => a == b
  | _, _ => false

/-- The members of a set that matches the same single characters, if the item is a character or a
set without negation. -/
def asSet? : Item → Option (List SetItem)
  | char code => some [.char code]
  | set false members => some members
  | _ => none

/-- A bare group stands for its content. -/
def ungrouped : Item → List Item
  | group none added removed body =>
      if added.isNone && removed.isNone then body else [group none added removed body]
  | item => [item]

end Item

/-- Widths stop growing here, where they count as unlimited. -/
def unlimitedWidth : Nat := 18446744073709551616

mutual

/-- The least and the largest number of characters that an item matches, given the widths of the
groups. -/
def Item.width (groups : List (Option (Nat × Nat))) : Item → Nat × Nat
  | .char _ | .notChar _ | .set .. | .any => (1, 1)
  | .anchor _ | .look .. => (0, 0)
  | .repetition _ least most body =>
      let (low, high) := sequenceWidth groups body
      (low * least, high * most.getD unlimitedWidth)
  | .group _ _ _ body => sequenceWidth groups body
  | .atomic body => sequenceWidth groups body
  | .backReference group => ((groups[group]?).join).getD (0, 0)
  | .conditional _ present absent =>
      let (low, high) := sequenceWidth groups present
      match absent with
      | some absent =>
          let (otherLow, otherHigh) := sequenceWidth groups absent
          (min low otherLow, max high otherHigh)
      | none => (0, high)
  | .branch alternatives => branchWidth groups alternatives

def sequenceWidth (groups : List (Option (Nat × Nat))) : List Item → Nat × Nat
  | [] => (0, 0)
  | item :: rest =>
      let (low, high) := item.width groups
      let (restLow, restHigh) := sequenceWidth groups rest
      (min (low + restLow) unlimitedWidth, min (high + restHigh) unlimitedWidth)

def branchWidth (groups : List (Option (Nat × Nat))) : List (List Item) → Nat × Nat
  | [] => (unlimitedWidth, 0)
  | alternative :: rest =>
      let (low, high) := sequenceWidth groups alternative
      let (restLow, restHigh) := branchWidth groups rest
      (min low restLow, max high restHigh)

end

end Rulebook.Pattern
