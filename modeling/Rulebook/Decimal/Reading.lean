import Rulebook.Text.Blank
import Rulebook.Text.Letter
import Rulebook.Text.Quoted

/-!
Numbers read from text. White space may stand around a number, its digits may be those of any
script, and a single low line may stand between two digits.
-/

namespace Rulebook.Decimal

/-- White space that may stand around a number: the separators among the control characters may
not. -/
def isSpace (c : Char) : Bool := Text.isBlank c && !(28 ≤ c.toNat && c.toNat ≤ 31)

/-- Digits of any script as ASCII digits; other characters stay. -/
def plainDigits (text : List Char) : List Char :=
  text.map fun c =>
    match Text.digitValue? c.toNat with
    | some value => Char.ofNat (48 + value)
    | none => c

def isDigit (c : Char) : Bool := '0' ≤ c && c ≤ '9'

/-- Drops low lines; `none` if one does not stand between two digits. `after` tells if a digit
comes before the text. -/
def dropGrouping (after : Bool) : List Char → Option (List Char)
  | [] => some []
  | '_' :: rest =>
      match rest with
      | d :: _ => if after && isDigit d then dropGrouping false rest else none
      | [] => none
  | c :: rest => (dropGrouping (isDigit c) rest).map (c :: ·)

def valueOf (digits : List Char) : Nat :=
  digits.foldl (fun value c => 10 * value + (c.toNat - 48)) 0

/-- Takes a sign off the front: whether it is a minus, and the rest. -/
def takeSign : List Char → Bool × List Char
  | '-' :: rest => (true, rest)
  | '+' :: rest => (false, rest)
  | text => (false, text)

/-- More digits than this are refused when integers are read or written. -/
def digitLimit : Nat := 4300

/-- The message about an integer with too many digits. -/
def digitLimitMessage (count : Nat) : String :=
  s!"Exceeds the limit ({digitLimit} digits) for integer string conversion: " ++
  s!"value has {count} digits; use sys.set_int_max_str_digits() to increase the limit"

/-- The message about a text that is no integer in a base. A long text is cut off. -/
def malformedMessage (base : Nat) (text : String) : String :=
  let literal := String.ofList ((Text.quoted text).toList.take 200)
  s!"invalid literal for int() with base {base}: {literal}"

inductive IntegerError where
  | malformed
  | tooManyDigits (count : Nat)
  deriving DecidableEq, Repr

def IntegerError.message (text : String) : IntegerError → String
  | malformed => malformedMessage 10 text
  | tooManyDigits count => digitLimitMessage count

/-- Reads a whole number in base ten. -/
def readInteger (text : String) : Except IntegerError Int :=
  let (negative, body) := takeSign (plainDigits (Text.trim isSpace text.toList))
  match dropGrouping false body with
  | none => .error .malformed
  | some digits =>
      if digits.isEmpty || !digits.all isDigit then .error .malformed
      else if digitLimit < digits.length then .error (.tooManyDigits digits.length)
      else .ok (if negative then -(valueOf digits : Int) else valueOf digits)

/-- The double nearest to `mantissa · 10 ^ exponent`. An exponent beyond the range of doubles is
decided without the power. -/
def nearest (mantissa : Nat) (exponent : Int) : Float :=
  if mantissa = 0 then 0.0
  else
    let leading := exponent + (toString mantissa).length
    if 310 < leading then Float.ofBits 0x7FF0000000000000
    else if leading < -330 then 0.0
    else Float.ofScientific mantissa (exponent < 0) exponent.natAbs

def infinity : Float := Float.ofBits 0x7FF0000000000000

def notANumber : Float := Float.ofBits 0x7FF8000000000000

/-- Reads digits with an optional fraction and exponent. -/
def readUnsigned (text : List Char) : Option Float :=
  let whole := text.takeWhile isDigit
  let rest := text.dropWhile isDigit
  let (fraction, rest) : List Char × List Char :=
    match rest with
    | '.' :: behind => (behind.takeWhile isDigit, behind.dropWhile isDigit)
    | _ => ([], rest)
  if whole.isEmpty && fraction.isEmpty then none
  else
    let mantissa := valueOf (whole ++ fraction)
    let places : Int := fraction.length
    match rest with
    | [] => some (nearest mantissa (-places))
    | e :: power =>
        if e = 'e' ∨ e = 'E' then
          let (negative, digits) := takeSign power
          if digits.isEmpty || !digits.all isDigit then none
          else
            let shift : Int := if negative then -(valueOf digits : Int) else valueOf digits
            some (nearest mantissa (shift - places))
        else none

/-- Reads a number with an optional fraction and exponent, or one of the words for infinity and
not-a-number. -/
def readFloat? (text : String) : Option Float :=
  match dropGrouping false (plainDigits (Text.trim isSpace text.toList)) with
  | none => none
  | some body =>
      let (negative, body) := takeSign body
      let signed := fun (x : Float) => if negative then -x else x
      let word := body.map Char.toLower
      if word = "inf".toList ∨ word = "infinity".toList then some (signed infinity)
      else if word = "nan".toList then some notANumber
      else (readUnsigned body).map signed

/-- The double nearest to an integer; `none` beyond the range of doubles. -/
def ofInteger? (n : Int) : Option Float :=
  let magnitude := nearest n.natAbs 0
  if magnitude.isInf then none else some (if n < 0 then -magnitude else magnitude)

end Rulebook.Decimal
