import Rulebook.Decimal.Scientific

/-!
How chosen digits are laid out. A `Layout` holds the decisions of one way to write numbers:
`plain` is the form of a number in data and messages, `compact` the form in tables.
-/

namespace Rulebook.Decimal

structure Layout where
  /-- The least exponent of the leading digit that is written positionally. -/
  positionalFrom : Int
  /-- The least larger exponent that is written with an exponent again. -/
  positionalBelow : Int
  /-- What follows a positional number without a fraction. -/
  wholeEnding : String

/-- Positional from a ten-thousandth to below `10 ^ 16`, and a whole number keeps `.0`. -/
def plain : Layout := ⟨-4, 16, ".0"⟩

/-- At most six significant digits, and nothing marks a whole number. -/
def compact : Layout := ⟨-4, 6, ""⟩

namespace Layout

def zeros (count : Nat) : String := String.ofList (List.replicate count '0')

/-- The digits of a natural number, with zeros before them up to the given count. -/
def padded (count n : Nat) : String :=
  let digits := toString n
  zeros (count - digits.length) ++ digits

/-- Writes a decimal part of `places` digits behind the point. -/
def withPoint (places digits : Nat) : String :=
  s!"{digits / Nat.pow 10 places}.{padded places (digits % Nat.pow 10 places)}"

/-- Lays out a number; zeros at the end of its digits have been dropped. -/
def write (layout : Layout) (number : Scientific) : String :=
  let count := (toString number.digits).length
  let leading := number.exponent + count - 1
  if number.digits = 0 then "0" ++ layout.wholeEnding
  else if layout.positionalFrom ≤ leading ∧ leading < layout.positionalBelow then
    if 0 ≤ number.exponent then
      toString (number.digits * Nat.pow 10 number.exponent.toNat) ++ layout.wholeEnding
    else withPoint (-number.exponent).toNat number.digits
  else
    let head := if count = 1 then toString number.digits else withPoint (count - 1) number.digits
    let sign := if leading < 0 then "-" else "+"
    head ++ "e" ++ sign ++ padded 2 leading.natAbs

end Layout

/-- Writes a double with digits chosen by `select` from its positive magnitude. -/
def text (layout : Layout) (select : Nat → Int → Scientific) (x : Float) : String :=
  match Binary.ofFloat x with
  | .nan => "nan"
  | .infinite negative => if negative then "-inf" else "inf"
  | .finite negative mantissa exponent =>
      let number := if mantissa = 0 then ⟨0, 0⟩ else (select mantissa exponent).trim
      (if negative then "-" else "") ++ layout.write number

/-- The fewest digits that read back. -/
def shortestText (x : Float) : String := text plain Binary.shortest x

/-- Six significant digits. -/
def compactText (x : Float) : String :=
  text compact (fun mantissa exponent =>
    let (numerator, denominator) := Binary.fraction mantissa exponent
    Binary.significant 6 numerator denominator) x

/-- A fixed number of places, at least one. -/
def fixedText (places : Nat) (x : Float) : String :=
  match Binary.ofFloat x with
  | .nan => "nan"
  | .infinite negative => if negative then "-inf" else "inf"
  | .finite negative mantissa exponent =>
      let (numerator, denominator) := Binary.fraction mantissa exponent
      let digits := roundDiv (numerator * Nat.pow 10 places) denominator
      (if negative then "-" else "") ++ Layout.withPoint places digits

end Rulebook.Decimal
