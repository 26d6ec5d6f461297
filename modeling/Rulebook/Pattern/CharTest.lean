import Rulebook.Pattern.Expr
import Rulebook.Text.Blank
import Rulebook.Text.Case
import Rulebook.Text.Letter

/-!
Tests on single characters: what a character, a dot or a set of a pattern comes down to once the
flags are known.
-/

namespace Rulebook.Pattern

/-- How characters are made equal before they are compared. -/
inductive Folding where
  | exact
  | ascii
  | unicode
  deriving DecidableEq, Repr

def Folding.fold : Folding → Nat → Nat
  | exact, code => code
  | ascii, code => Text.asciiLowerCode code
  | unicode, code => Text.lowerCode code

def Folding.isCased : Folding → Nat → Bool
  | exact, _ => false
  | ascii, code => Text.isAsciiCasedCode code
  | unicode, code => Text.isCasedCode code

/-- The folding that the flags ask for. -/
def Flags.folding (flags : Flags) : Folding :=
  if !flags.ignoreCase then .exact else if flags.unicode then .unicode else .ascii

/-- A member of a set that a folded character is tested against. -/
inductive Member where
  | code (code : Nat)
  | range (first last : Nat)
  /-- Some character of the range folds to the tested one, or counts as equal to it. -/
  | foldedRange (first last : Nat)
  | category (category : Category) (ascii negated : Bool)
  deriving DecidableEq, Repr

def isWordCode (ascii : Bool) (code : Nat) : Bool :=
  if code < 128 then
    (48 ≤ code && code ≤ 57) || (65 ≤ code && code ≤ 90) || (97 ≤ code && code ≤ 122) || code == 95
  else !ascii && Text.isAlphanumericCode code

def Category.contains (ascii : Bool) (code : Nat) : Category → Bool
  | digit => if code < 128 || ascii then 48 ≤ code && code ≤ 57 else Text.isDigitCode code
  | space => if ascii then Text.isAsciiBlankCode code else Text.isBlankCode code
  | word => isWordCode ascii code

/-- The last character of those whose case is looked up one by one when a range is folded. -/
def lastFolded : Nat := 0xFFFF

/-- Whether a character of the range, when folded, is the given one or has its upper case. A range
that goes beyond `lastFolded` also has the characters whose upper case begins in it. -/
def foldsInto (folding : Folding) (first last code : Nat) : Bool :=
  let within := fun (c : Nat) => first ≤ c && c ≤ last
  let beyond := lastFolded < last && (within code || within (Text.upperCode code))
  match folding with
  | .exact => within code
  | .ascii =>
      (within code && Text.asciiLowerCode code == code) ||
      (97 ≤ code && code ≤ 122 && within (code - 32)) || beyond
  | .unicode =>
      (within code && Text.lowerCode code == code) ||
      (Text.isCasedCode code && (code :: Text.sameUpperAs code).any fun lower =>
        (within lower && Text.lowerCode lower == lower) || (Text.withLowerCode lower).any within) ||
      beyond

def Member.contains (folding : Folding) (folded : Nat) : Member → Bool
  | .code c => folded == c
  | .range first last => first ≤ folded && folded ≤ last
  | .foldedRange first last => foldsInto folding first last folded
  | .category kind ascii negated => kind.contains ascii folded != negated

/-- A test of one character: folded, it is a member of the set or, if negated, it is none. -/
structure CharTest where
  folding : Folding := .exact
  negated : Bool := false
  members : List Member
  deriving DecidableEq, Repr

namespace CharTest

def accepts (test : CharTest) (code : Nat) : Bool :=
  let folded := test.folding.fold code
  (test.members.any (Member.contains test.folding folded)) != test.negated

/-- The only character that passes, if the test compares with one character as it is. -/
def onlyCode? : CharTest → Option Nat
  | ⟨.exact, false, [.code code]⟩ => some code
  | _ => none

/-- Characters pass by what they are, unfolded: the test is neither a dot nor the refusal of a
single character. -/
def isSelective : CharTest → Bool
  | ⟨.exact, true, []⟩ | ⟨.exact, true, [.code _]⟩ => false
  | ⟨.exact, _, _⟩ => true
  | _ => false

/-- The test compares a folded character with more than one. -/
def isFoldedSet : CharTest → Bool
  | ⟨.exact, _, _⟩ | ⟨_, _, [.code _]⟩ => false
  | _ => true

/-- Any character, or any but the end of a line. -/
def dot (dotAll : Bool) : CharTest := { negated := true, members := if dotAll then [] else [.code 10] }

/-- One character, or any other if negated. Characters without case are compared as they are. -/
def char (folding : Folding) (negated : Bool) (code : Nat) : CharTest :=
  if folding.isCased code then
    let lower := folding.fold code
    let others := if folding = .unicode then Text.sameUpperAs lower else []
    { folding, negated, members := (lower :: others).map .code }
  else { negated, members := [.code code] }

/-- Some character between the two has case, or lies beyond the range that is looked through. -/
def rangeIsCased (folding : Folding) (first last : Nat) : Bool :=
  match folding with
  | .exact => false
  | .ascii => (first ≤ 90 && 65 ≤ last) || (first ≤ 122 && 97 ≤ last) || lastFolded < last
  | .unicode =>
      lastFolded < last || Text.CaseTable.cased.any fun (low, high) => first ≤ high && low ≤ last

/-- The item has a character with case, or its range is too long to tell. -/
def itemHasCase (folding : Folding) : SetItem → Bool
  | .char code => folding.isCased code
  | .range first last => rangeIsCased folding first last
  | .category .. => false

/-- The item makes a set fold the characters that it is asked about. -/
def itemIsFolded (folding : Folding) : SetItem → Bool
  | .char code => folding.isCased code || (folding != .exact && lastFolded < code)
  | item => itemHasCase folding item

/-- The members that an item of a set stands for under a folding. -/
def itemMembers (folding : Folding) (ascii : Bool) : SetItem → List Member
  | .char code =>
      if lastFolded < code then [.code code]
      else
        let lower := folding.fold code
        (lower :: if folding = .unicode then Text.sameUpperAs lower else []).map .code
  | .range first last =>
      if rangeIsCased folding first last then [.foldedRange first last] else [.range first last]
  | .category category negated => [.category category ascii negated]

/-- A set. Characters are folded only if a member asks for it. -/
def set (folding : Folding) (ascii negated : Bool) (items : List SetItem) : CharTest :=
  let used := if items.any (itemIsFolded folding) then folding else .exact
  { folding := used, negated, members := (items.map (itemMembers used ascii)).flatten }

end CharTest

end Rulebook.Pattern
