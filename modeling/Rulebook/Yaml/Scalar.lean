import Rulebook.Text.Case
import Rulebook.Yaml.Error
import Rulebook.Yaml.Tag

/-!
The values that scalars of the tags of the common vocabulary stand for.
-/

namespace Rulebook.Yaml.Scalar

/-- Low lines between digits do not count. -/
def withoutGrouping (text : String) : List Char := text.toList.filter (· ≠ '_')

/-! ## Numbers -/

/-- The value of a digit in bases up to sixteen. -/
def digitIn? (base : Nat) (c : Char) : Option Nat :=
  (Text.hexValue? c).filter (· < base)

/-- Reads a whole number in a base other than ten. White space around it, a sign, and a zero with
the letter of the base before the digits are allowed. -/
def inBase? (base : Nat) (letter : Char) (text : List Char) : Option Int := do
  let (negative, body) :=
    Decimal.takeSign (Decimal.plainDigits (Text.trim Decimal.isSpace text))
  let digits := match body with
    | '0' :: c :: rest => if c.toLower = letter then rest else body
    | _ => body
  if digits.isEmpty then none
  let values ← digits.mapM (digitIn? base)
  let magnitude : Nat := values.foldl (fun value digit => base * value + digit) 0
  return if negative then -(magnitude : Int) else magnitude

def wholeInBase (base : Nat) (letter : Char) (text : List Char) : Except ScalarError Int :=
  match inBase? base letter text with
  | some value => .ok value
  | none => .error (.notInteger base (String.ofList text))

def whole (text : List Char) : Except ScalarError Int :=
  match Decimal.readInteger (String.ofList text) with
  | .ok value => .ok value
  | .error .malformed => .error (.notInteger 10 (String.ofList text))
  | .error (.tooManyDigits count) => .error (.tooManyDigits count)

/-- Takes the sign off a number that has at least one character. -/
def takeSign (text : List Char) : Except ScalarError (Bool × List Char) :=
  if text.isEmpty then .error .emptyNumber else .ok (Decimal.takeSign text)

/-- A whole number: binary, octal, hexadecimal, with parts of sixty, or decimal. -/
def int (text : String) : Except ScalarError Int := do
  let (negative, body) ← takeSign (withoutGrouping text)
  let magnitude ← match body with
    | [] => throw .emptyNumber
    | ['0'] => pure 0
    | '0' :: 'b' :: digits => wholeInBase 2 'b' digits
    | '0' :: 'x' :: digits => wholeInBase 16 'x' digits
    | '0' :: _ => wholeInBase 8 'o' body
    | _ =>
        if body.contains ':' then
          let parts ← (Text.splitAt ':' body).mapM whole
          pure (parts.foldl (fun value part => 60 * value + part) 0)
        else whole body
  return if negative then -magnitude else magnitude

def decimal (text : List Char) : Except ScalarError Float :=
  match Decimal.readFloat? (String.ofList text) with
  | some value => .ok value
  | none => .error (.notFloat (String.ofList text))

/-- The sum of parts, the lowest first, each worth sixty times the one before. -/
def sumOfSixtieths : List Float → Nat → Float → Except ScalarError Float
  | [], _, sum => .ok sum
  | part :: parts, unit, sum =>
      match Decimal.ofInteger? unit with
      | none => .error .numberTooLarge
      | some weight => sumOfSixtieths parts (60 * unit) (sum + part * weight)

def lowered (text : List Char) : List Char :=
  text.map fun c => Char.ofNat (Text.lowerCode c.toNat)

/-- A number with a fraction, possibly with parts of sixty, or one of the words for infinity and
not-a-number. -/
def float (text : String) : Except ScalarError Float := do
  let (negative, body) ← takeSign (lowered (withoutGrouping text))
  let signed := fun (x : Float) => if negative then -x else x
  if body = ".inf".toList then return signed Decimal.infinity
  if body = ".nan".toList then return Decimal.notANumber
  if body.contains ':' then
    let parts ← (Text.splitAt ':' body).mapM decimal
    return signed (← sumOfSixtieths parts.reverse 1 0.0)
  return signed (← decimal body)

/-! ## Truth values -/

def bool (text : String) : Except ScalarError Bool :=
  let word := String.ofList (lowered text.toList)
  if ["yes", "true", "on"].contains word then .ok true
  else if ["no", "false", "off"].contains word then .ok false
  else .error (.notBool word)

/-! ## Points in time -/

def checkDate (year month day : Nat) : Except ScalarError Unit := do
  if year = 0 then throw (.yearOutOfRange year)
  if month = 0 ∨ 12 < month then throw .monthOutOfRange
  if day = 0 ∨ Calendar.daysIn year month < day then throw .dayOutOfRange

/-- A distance from universal time is less than a day. -/
def offset : Option (Option (Char × List Char × List Char)) → Except ScalarError (Option Int)
  | none => .ok none
  | some none => .ok (some 0)
  | some (some (sign, hours, minutes)) =>
      let seconds : Int := 3600 * Decimal.valueOf hours + 60 * Decimal.valueOf minutes
      let seconds := if sign = '-' then -seconds else seconds
      if 86400 ≤ seconds.natAbs then .error (.offsetOutOfRange seconds) else .ok (some seconds)

def moment (text : String) : Except ScalarError Value := do
  let some parts := MomentText.parse? text.toList | throw .notMoment
  let year := Decimal.valueOf parts.year
  let month := Decimal.valueOf parts.month
  let day := Decimal.valueOf parts.day
  match parts.time with
  | none => do
      checkDate year month day
      return .date year month day
  | some (hour, minute, second, fraction) => do
      let offset ← offset parts.zone
      checkDate year month day
      let hour := Decimal.valueOf hour
      let minute := Decimal.valueOf minute
      let second := Decimal.valueOf second
      if 23 < hour then throw .hourOutOfRange
      if 59 < minute then throw .minuteOutOfRange
      if 59 < second then throw .secondOutOfRange
      let fraction := (fraction ++ List.replicate 6 '0').take 6
      return .moment
        { year, month, day, hour, minute, second, microsecond := Decimal.valueOf fraction, offset }

/-! ## Bytes -/

/-- The value of a character that stands for six bits. -/
def sixBits? (c : Char) : Option Nat :=
  if 'A' ≤ c && c ≤ 'Z' then some (c.toNat - 65)
  else if 'a' ≤ c && c ≤ 'z' then some (c.toNat - 71)
  else if '0' ≤ c && c ≤ '9' then some (c.toNat + 4)
  else if c = '+' then some 62
  else if c = '/' then some 63
  else none

/-- Why text is no base-64 form of bytes. -/
def strayCharacter (bytes : Nat) : String :=
  s!"Invalid base64-encoded string: number of data characters ({bytes / 3 * 4 + 1}) cannot be " ++
  "1 more than a multiple of 4"

/-- Reads the base-64 form of bytes. Characters without a meaning are passed over. `phase` is the
number of characters of the current group, `left` what they leave for the next byte, `pads` the
number of padding signs just before, and `read` the bytes so far, the last one first. -/
def base64 (phase left pads : Nat) (read : List UInt8) : List Char → Except String (List UInt8)
  | [] =>
      if phase = 0 then .ok read.reverse
      else if phase = 1 then .error (strayCharacter read.length)
      else .error "Incorrect padding"
  | c :: rest =>
      if c = '=' then
        if 2 ≤ phase then
          if 4 ≤ phase + pads + 1 then .ok read.reverse
          else base64 phase left (pads + 1) read rest
        else base64 phase left pads read rest
      else match sixBits? c with
        | none => base64 phase left pads read rest
        | some bits =>
            match phase with
            | 0 => base64 1 bits 0 read rest
            | 1 => base64 2 (bits % 16) 0 (UInt8.ofNat (left * 4 + bits / 16) :: read) rest
            | 2 => base64 3 (bits % 4) 0 (UInt8.ofNat (left * 16 + bits / 4) :: read) rest
            | _ => base64 0 0 0 (UInt8.ofNat (left * 64 + bits) :: read) rest

/-- Why a text with characters beyond ASCII cannot be bytes: the first run of such characters. -/
def notAscii (text : List Char) : Option String :=
  let start := (text.takeWhile (·.toNat < 128)).length
  let run := (text.drop start).takeWhile (128 ≤ ·.toNat)
  match run with
  | [] => none
  | [c] =>
      let shown := String.ofList (Text.escapeCode c.toNat)
      some s!"'ascii' codec can't encode character '{shown}' in position {start}: ordinal not in range(128)"
  | _ => some (s!"'ascii' codec can't encode characters in position {start}-" ++
      s!"{start + run.length - 1}: ordinal not in range(128)")

def bytes (text : String) : Except Problem (List UInt8) :=
  match notAscii text.toList with
  | some detail => .error (.notAsciiBinary detail)
  | none => (base64 0 0 0 [] text.toList).mapError .undecodableBinary

end Rulebook.Yaml.Scalar
