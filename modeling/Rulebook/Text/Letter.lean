import Rulebook.Text.LetterTable
import Rulebook.Text.Ranges

/-!
Letters, numerals, decimal digits and identifiers.
-/

namespace Rulebook.Text

/-- Code points of the digits zero of the decimal digit blocks of all scripts; the nine other
digits of a block follow its zero. -/
def digitZeros : List Nat :=
  [0x30, 0x660, 0x6F0, 0x7C0, 0x966, 0x9E6, 0xA66, 0xAE6, 0xB66, 0xBE6, 0xC66, 0xCE6, 0xD66,
   0xDE6, 0xE50, 0xED0, 0xF20, 0x1040, 0x1090, 0x17E0, 0x1810, 0x1946, 0x19D0, 0x1A80, 0x1A90,
   0x1B50, 0x1BB0, 0x1C40, 0x1C50, 0xA620, 0xA8D0, 0xA900, 0xA9D0, 0xA9F0, 0xAA50, 0xABF0,
   0xFF10, 0x104A0, 0x10D30, 0x11066, 0x110F0, 0x11136, 0x111D0, 0x112F0, 0x11450, 0x114D0,
   0x11650, 0x116C0, 0x11730, 0x118E0, 0x11950, 0x11C50, 0x11D50, 0x11DA0, 0x16A60, 0x16AC0,
   0x16B50, 0x1D7CE, 0x1D7D8, 0x1D7E2, 0x1D7EC, 0x1D7F6, 0x1E140, 0x1E2F0, 0x1E950, 0x1FBF0]

/-- The value of a decimal digit of any script. -/
def digitValue? (code : Nat) : Option Nat :=
  (digitZeros.find? fun first => first ≤ code && code ≤ first + 9).map (code - ·)

def isDigitCode (code : Nat) : Bool := (digitValue? code).isSome

/-- A digit of any kind: a decimal one, or one that is raised, lowered, circled or the like. -/
def isAnyDigitCode (code : Nat) : Bool :=
  isDigitCode code || Ranges.contains LetterTable.otherDigit code

def isAlphanumericCode (code : Nat) : Bool := Ranges.contains LetterTable.alphanumeric code

def isLetterCode (code : Nat) : Bool :=
  isAlphanumericCode code && !Ranges.contains LetterTable.numeral code

def startsIdentifier (code : Nat) : Bool :=
  isAlphanumericCode code && !Ranges.contains LetterTable.notStart code ||
  Ranges.contains LetterTable.alsoStart code

def continuesIdentifier (code : Nat) : Bool :=
  startsIdentifier code || Ranges.contains LetterTable.continueOnly code

def isIdentifier : List Char → Bool
  | [] => false
  | c :: rest => startsIdentifier c.toNat && rest.all fun d => continuesIdentifier d.toNat

end Rulebook.Text
