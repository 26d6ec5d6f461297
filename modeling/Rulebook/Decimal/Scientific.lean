/-!
Binary floating-point numbers as exact rationals, and their decimal digits.

`Binary.ofFloat` reads the bits of a double as `± mantissa · 2 ^ exponent`. Two selections of
digits follow: the fewest digits that read back to the same double (`Binary.shortest`) and a
rounding to a given number of significant digits or of places, half to even.
-/

namespace Rulebook.Decimal

/-- The number `digits · 10 ^ exponent`. -/
structure Scientific where
  digits : Nat
  exponent : Int
  deriving DecidableEq, Repr

/-- The quotient of two naturals rounded to the nearest, a half going to the even neighbour. -/
def roundDiv (numerator denominator : Nat) : Nat :=
  let quotient := numerator / denominator
  let twice := 2 * (numerator % denominator)
  if twice < denominator then quotient
  else if twice = denominator then quotient + quotient % 2
  else quotient + 1

/-- How many decimal digits write the number; zero needs none. -/
def digitCount (n : Nat) : Nat :=
  if _positive : 0 < n then digitCount (n / 10) + 1 else 0
  termination_by n
  decreasing_by omega

/-- The least `k` with `numerator / denominator < 10 ^ k`, for a positive fraction. -/
def decimalScale (numerator denominator : Nat) : Int :=
  if denominator ≤ numerator then digitCount (numerator / denominator)
  else 1 - digitCount ((denominator - 1) / numerator)

/-- The fraction divided by `10 ^ exponent`, again as a fraction. -/
def scaleDown (numerator denominator : Nat) (exponent : Int) : Nat × Nat :=
  (numerator * Nat.pow 10 (-exponent).toNat, denominator * Nat.pow 10 exponent.toNat)

/-- A double without its encoding. -/
inductive Binary where
  | finite (negative : Bool) (mantissa : Nat) (exponent : Int)
  | infinite (negative : Bool)
  | nan
  deriving DecidableEq, Repr

namespace Binary

def ofFloat (x : Float) : Binary :=
  let bits := x.toBits.toNat
  let negative := decide (Nat.pow 2 63 ≤ bits)
  let biased : Nat := bits / Nat.pow 2 52 % 2048
  let fraction := bits % Nat.pow 2 52
  if biased = 2047 then if fraction = 0 then infinite negative else nan
  else if biased = 0 then finite negative fraction (-1074)
  else finite negative (Nat.pow 2 52 + fraction) ((biased : Int) - 1075)

/-- A magnitude `mantissa · 2 ^ exponent` as a fraction. -/
def fraction (mantissa : Nat) (exponent : Int) : Nat × Nat :=
  (mantissa * Nat.pow 2 exponent.toNat, Nat.pow 2 (-exponent).toNat)

/-- Rounds a positive fraction to a number of significant digits. -/
def significant (count : Nat) (numerator denominator : Nat) : Scientific :=
  let unit := decimalScale numerator denominator - (count : Int)
  let (top, bottom) := scaleDown numerator denominator unit
  ⟨roundDiv top bottom, unit⟩

/-- Compares `digits · 10 ^ exponent` with `quarters · 2 ^ (binary - 2)`. -/
def compareQuarters (candidate : Scientific) (quarters : Nat) (binary : Int) : Ordering :=
  compare
    (candidate.digits * Nat.pow 10 candidate.exponent.toNat * Nat.pow 2 (2 - binary).toNat)
    (quarters * Nat.pow 2 (binary - 2).toNat * Nat.pow 10 (-candidate.exponent).toNat)

/-- Reading the candidate gives the double `mantissa · 2 ^ exponent`: it lies between the
midpoints to the neighbouring doubles, which belong to an even mantissa. -/
def readsBack (mantissa : Nat) (exponent : Int) (candidate : Scientific) : Bool :=
  let below := if mantissa = Nat.pow 2 52 ∧ exponent ≠ -1074 then 1 else 2
  let low := compareQuarters candidate (4 * mantissa - below) exponent
  let high := compareQuarters candidate (4 * mantissa + 2) exponent
  if mantissa % 2 = 0 then low != .lt && high != .gt else low == .gt && high == .lt

/-- The neighbours of the double on the grid of `count` digits that read back, the nearer one
first. -/
def candidates (mantissa : Nat) (exponent : Int) (count : Nat) : List Scientific :=
  let (numerator, denominator) := fraction mantissa exponent
  let unit := decimalScale numerator denominator - (count : Int)
  let (top, bottom) := scaleDown numerator denominator unit
  let lower := top / bottom
  let nearer := roundDiv top bottom
  let other := if nearer = lower then lower + 1 else lower
  [Scientific.mk nearer unit, Scientific.mk other unit].filter (readsBack mantissa exponent)

/-- The fewest digits that read back to the positive double, the nearest of those. Seventeen
digits always do. -/
def shortest (mantissa : Nat) (exponent : Int) : Scientific :=
  let grids := (List.range 17).map fun count => candidates mantissa exponent (count + 1)
  match grids.findSome? List.head? with
  | some found => found
  | none =>
      let (numerator, denominator) := fraction mantissa exponent
      significant 17 numerator denominator

end Binary

/-- The same number with no zero at the end of its digits. -/
def Scientific.trim (number : Scientific) : Scientific :=
  if _ends : 0 < number.digits ∧ number.digits % 10 = 0 then
    Scientific.trim ⟨number.digits / 10, number.exponent + 1⟩
  else number
  termination_by number.digits
  decreasing_by omega

end Rulebook.Decimal
