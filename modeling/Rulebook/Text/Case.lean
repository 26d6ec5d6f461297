import Rulebook.Text.CaseTable
import Rulebook.Text.Ranges

/-!
Lower case of single characters, and which characters count as the same when case is ignored.
-/

namespace Rulebook.Text

/-- The other case of a character, if one of the runs has it. -/
def shiftedBy (runs : Array CaseTable.Run) (code : Nat) : Nat :=
  match runs.find? fun run =>
    run.first ≤ code && code ≤ run.last && (code - run.first) % run.step == 0 with
  | some run => (code + run.shift).toNat
  | none => code

/-- The lower case of a character as a single character. -/
def lowerCode (code : Nat) : Nat :=
  if code < 128 then (if 65 ≤ code && code ≤ 90 then code + 32 else code)
  else shiftedBy CaseTable.lowering code

/-- The upper case of a character, or the first character of it. -/
def upperCode (code : Nat) : Nat := shiftedBy CaseTable.raising code

def asciiLowerCode (code : Nat) : Nat := if 65 ≤ code && code ≤ 90 then code + 32 else code

/-- The character differs from its lower or from its upper case. -/
def isCasedCode (code : Nat) : Bool :=
  if code < 128 then (65 ≤ code && code ≤ 90) || (97 ≤ code && code ≤ 122)
  else Ranges.contains CaseTable.cased code

def isAsciiCasedCode (code : Nat) : Bool :=
  (65 ≤ code && code ≤ 90) || (97 ≤ code && code ≤ 122)

/-- Other lower-case characters that have the same upper case as the given one. -/
def sameUpperAs (code : Nat) : List Nat :=
  match CaseTable.sameUpper.find? (·.1 == code) with
  | some (_, others) => others
  | none => []

/-- The characters whose lower case is the given one. -/
def withLowerCode (code : Nat) : List Nat :=
  CaseTable.lowering.toList.filterMap fun run =>
    let upper := (code : Int) - run.shift
    if run.first ≤ upper ∧ upper ≤ run.last ∧ (upper - run.first) % run.step = 0 then
      some upper.toNat
    else none

end Rulebook.Text
