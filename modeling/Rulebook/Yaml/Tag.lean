import Rulebook.Decimal.Reading
import Rulebook.Text.Hex

/-!
What a plain scalar without a tag stands for, told from its form.
-/

namespace Rulebook.Yaml

/-- The text of a point in time, in its parts. -/
structure MomentText where
  year : List Char
  month : List Char
  day : List Char
  /-- Hour, minute, second and the digits of a fraction. -/
  time : Option (List Char × List Char × List Char × List Char) := none
  /-- A distance from universal time: its sign, hours and minutes; nothing for none. -/
  zone : Option (Option (Char × List Char × List Char)) := none

namespace MomentText

/-- Takes at least `least` and at most `most` digits. -/
def digits? (least most : Nat) (text : List Char) : Option (List Char × List Char) :=
  let found := (text.take most).takeWhile Decimal.isDigit
  if least ≤ found.length then some (found, text.drop found.length) else none

def sign? (expected : Char) : List Char → Option (List Char)
  | c :: rest => if c = expected then some rest else none
  | [] => none

def isBlank (c : Char) : Bool := c == ' ' || c == '\t'

/-- The end of the text, which may be a line feed. -/
def isEnd (text : List Char) : Bool := text.isEmpty || text == ['\n']

def zone? (text : List Char) : Option (Option (Option (Char × List Char × List Char))) :=
  if isEnd text then some none
  else match text.dropWhile isBlank with
    | 'Z' :: rest => if isEnd rest then some (some none) else none
    | c :: rest =>
        if c = '-' ∨ c = '+' then do
          let (hours, rest) ← digits? 1 2 rest
          if isEnd rest then return some (some (c, hours, []))
          let rest ← sign? ':' rest
          let (minutes, rest) ← digits? 2 2 rest
          if isEnd rest then return some (some (c, hours, minutes)) else none
        else none
    | [] => none

/-- A date, and a time of day behind it after a `T` or blanks. -/
def parse? (text : List Char) : Option MomentText := do
  let (year, rest) ← digits? 4 4 text
  let rest ← sign? '-' rest
  let (month, rest) ← digits? 1 2 rest
  let rest ← sign? '-' rest
  let (day, rest) ← digits? 1 2 rest
  if isEnd rest then return { year, month, day }
  let rest ← match rest with
    | c :: behind =>
        if c = 'T' ∨ c = 't' then some behind
        else if isBlank c then some (behind.dropWhile isBlank) else none
    | [] => none
  let (hour, rest) ← digits? 1 2 rest
  let rest ← sign? ':' rest
  let (minute, rest) ← digits? 2 2 rest
  let rest ← sign? ':' rest
  let (second, rest) ← digits? 2 2 rest
  let (fraction, rest) := match rest with
    | '.' :: behind =>
        (behind.takeWhile Decimal.isDigit, behind.dropWhile Decimal.isDigit)
    | _ => ([], rest)
  let zone ← zone? rest
  return { year, month, day, time := some (hour, minute, second, fraction), zone }

end MomentText

namespace Tag

/-- The tag with a name of the common vocabulary. -/
def named (name : String) : String := "tag:yaml.org,2002:" ++ name

def isGrouped (c : Char) : Bool := Decimal.isDigit c || c == '_'

def withoutSign : List Char → List Char
  | c :: rest => if c = '-' ∨ c = '+' then rest else c :: rest
  | [] => []

/-- Digits, behind the first of which low lines may stand. -/
def isGroupedNumber : List Char → Bool
  | c :: rest => Decimal.isDigit c && rest.all isGrouped
  | [] => false

/-- A part of a number with base sixty: below sixty, in one digit or two. -/
def isSixtieth : List Char → Bool
  | [c] => Decimal.isDigit c
  | [c, d] => '0' ≤ c && c ≤ '5' && Decimal.isDigit d
  | _ => false

/-- An exponent with its sign, or nothing. -/
def isPower : List Char → Bool
  | [] => true
  | e :: s :: digits =>
      (e == 'e' || e == 'E') && (s == '-' || s == '+') && !digits.isEmpty &&
        digits.all Decimal.isDigit
  | _ => false

/-- The parts before and behind the first point. -/
def atPoint? (text : List Char) : Option (List Char × List Char) :=
  match text.dropWhile (· ≠ '.') with
  | _ :: behind => some (text.takeWhile (· ≠ '.'), behind)
  | [] => none

def isFloat (text : List Char) : Bool :=
  let body := withoutSign text
  match atPoint? body with
  | none => false
  | some ([], behind) =>
      ["inf", "Inf", "INF"].contains (String.ofList behind) ||
      (body == text && (["nan", "NaN", "NAN"].contains (String.ofList behind) ||
        (isGroupedNumber (behind.takeWhile isGrouped) && isPower (behind.dropWhile isGrouped))))
  | some (whole, behind) =>
      match Text.splitAt ':' whole with
      | [number] => isGroupedNumber number && isPower (behind.dropWhile isGrouped)
      | number :: parts =>
          isGroupedNumber number && parts.all isSixtieth && behind.all isGrouped
      | [] => false

def isInt (text : List Char) : Bool :=
  match withoutSign text with
  | ['0'] => true
  | '0' :: 'b' :: digits => !digits.isEmpty && digits.all (fun c => c == '0' || c == '1' || c == '_')
  | '0' :: 'x' :: digits =>
      !digits.isEmpty && digits.all (fun c => (Text.hexValue? c).isSome || c == '_')
  | '0' :: digits => digits.all fun c => ('0' ≤ c && c ≤ '7') || c == '_'
  | body =>
      match Text.splitAt ':' body with
      | number :: parts => isGroupedNumber number && parts.all isSixtieth
      | [] => false

def isMoment (text : List Char) : Bool :=
  match MomentText.parse? text with
  | none => false
  | some moment =>
      moment.time.isSome || (moment.month.length == 2 && moment.day.length == 2)

def boolWords : List String :=
  ["yes", "Yes", "YES", "no", "No", "NO", "true", "True", "TRUE", "false", "False", "FALSE",
   "on", "On", "ON", "off", "Off", "OFF"]

/-- The name of what a text without a final line feed stands for. -/
def nameOf (text : List Char) : String :=
  let word := String.ofList text
  if boolWords.contains word then "bool"
  else if isFloat text then "float"
  else if isInt text then "int"
  else if word = "<<" then "merge"
  else if ["", "~", "null", "Null", "NULL"].contains word then "null"
  else if isMoment text then "timestamp"
  else if word = "=" then "value"
  else if ["!", "&", "*"].contains word then "yaml"
  else "str"

/-- The tag of a scalar that is told by its form. One line feed at its end does not count. -/
def ofForm (text : String) : String :=
  let chars := text.toList
  match chars.reverse with
  | '\n' :: first :: rest => named (nameOf (first :: rest).reverse)
  | _ => named (nameOf chars)

end Tag

end Rulebook.Yaml
