import Rulebook.Value

/-!
Reading JSON texts. Besides the standard's values, `NaN`, `Infinity` and `-Infinity` are numbers;
of equal keys the last value counts.
-/

namespace Rulebook.Json

inductive Problem where
  | byteOrderMark
  | expectingValue
  | extraData
  | expectingName
  | expectingColon
  | expectingComma
  | unterminatedString
  | controlCharacter
  | invalidEscape
  | invalidUnicodeEscape
  deriving DecidableEq, Repr

/-- Lists and objects that are nested deeper than this are refused. -/
def depthLimit : Nat := 988

/-- Why a text is not read as JSON: a problem at a position, an integer with too many digits, or a
list or an object that lies too deep. -/
inductive Error where
  | malformed (problem : Problem) (position : Nat)
  | tooManyDigits (count : Nat)
  | tooDeep (isObject : Bool)
  deriving DecidableEq, Repr

def Problem.message : Problem → String
  | byteOrderMark => "Unexpected UTF-8 BOM (decode using utf-8-sig)"
  | expectingValue => "Expecting value"
  | extraData => "Extra data"
  | expectingName => "Expecting property name enclosed in double quotes"
  | expectingColon => "Expecting ':' delimiter"
  | expectingComma => "Expecting ',' delimiter"
  | unterminatedString => "Unterminated string starting at"
  | controlCharacter => "Invalid control character at"
  | invalidEscape => "Invalid \\escape"
  | invalidUnicodeEscape => "Invalid \\uXXXX escape"

/-- The message of an error in the text it arose from: lines and columns count from one. -/
def Error.message (text : String) : Error → String
  | malformed problem position =>
      let before := text.toList.take position
      let line := before.count '\n' + 1
      let column := (before.reverse.takeWhile (· ≠ '\n')).length + 1
      s!"{problem.message}: line {line} column {column} (char {position})"
  | tooManyDigits count => Decimal.digitLimitMessage count
  | tooDeep isObject =>
      let kind := if isObject then "object" else "array"
      s!"maximum recursion depth exceeded while decoding a JSON {kind} from a unicode string"

/-- What is left of the text, with the position where it starts. -/
structure Rest where
  position : Nat
  text : List Char

def Rest.drop (count : Nat) (rest : Rest) : Rest :=
  ⟨rest.position + count, rest.text.drop count⟩

def isSpace (c : Char) : Bool := c == ' ' || c == '\t' || c == '\n' || c == '\r'

def Rest.skipSpace (rest : Rest) : Rest :=
  rest.drop (rest.text.takeWhile isSpace).length

/-- The number that four hexadecimal digits at the front write; something has to follow them. -/
def fourHex? (text : List Char) : Option Nat :=
  match text with
  | a :: b :: c :: d :: _ :: _ => do
      let a ← Text.hexValue? a
      let b ← Text.hexValue? b
      let c ← Text.hexValue? c
      let d ← Text.hexValue? d
      return ((a * 16 + b) * 16 + c) * 16 + d
  | _ => none

/-- Reads the inside of a string up to its closing quote. `start` is the position of the opening
quote and `read` holds the characters so far, the last one first. An escaped surrogate without its
other half, which is no character, is read as the character with the code 0. -/
def readString (fuel start : Nat) (read : List Char) (rest : Rest) :
    Except Error (String × Rest) :=
  match fuel with
  | 0 => .error (.malformed .unterminatedString start)
  | fuel + 1 =>
      match rest.text with
      | [] => .error (.malformed .unterminatedString start)
      | '"' :: _ => .ok (String.ofList read.reverse, rest.drop 1)
      | '\\' :: escape =>
          match escape with
          | [] => .error (.malformed .unterminatedString start)
          | 'u' :: digits =>
              match fourHex? digits with
              | none => .error (.malformed .invalidUnicodeEscape (rest.position + 1))
              | some high =>
                  let low := match digits.drop 4 with
                    | '\\' :: 'u' :: more => fourHex? more
                    | _ => none
                  match low with
                  | some low =>
                      if 0xD800 ≤ high ∧ high < 0xDC00 ∧ 0xDC00 ≤ low ∧ low < 0xE000 then
                        let code := 0x10000 + (high - 0xD800) * 0x400 + (low - 0xDC00)
                        readString fuel start (Char.ofNat code :: read) (rest.drop 12)
                      else readString fuel start (Char.ofNat high :: read) (rest.drop 6)
                  | none => readString fuel start (Char.ofNat high :: read) (rest.drop 6)
          | c :: _ =>
              let plain : Option Char := match c with
                | '"' => some '"'
                | '\\' => some '\\'
                | '/' => some '/'
                | 'b' => some '\x08'
                | 'f' => some '\x0c'
                | 'n' => some '\n'
                | 'r' => some '\r'
                | 't' => some '\t'
                | _ => none
              match plain with
              | some c => readString fuel start (c :: read) (rest.drop 2)
              | none => .error (.malformed .invalidEscape rest.position)
      | c :: _ =>
          if c.toNat < 32 then .error (.malformed .controlCharacter rest.position)
          else readString fuel start (c :: read) (rest.drop 1)

/-- Reads a number at the front; `none` if there is none. -/
def readNumber (rest : Rest) : Except Error (Option (Value × Rest)) :=
  let text := rest.text
  let (negative, body) : Bool × List Char := match text with
    | '-' :: body => (true, body)
    | _ => (false, text)
  let whole := match body with
    | '0' :: _ => ['0']
    | _ => body.takeWhile Decimal.isDigit
  if whole.isEmpty then .ok none
  else
    let behind := body.drop whole.length
    let fraction := match behind with
      | '.' :: digits => digits.takeWhile Decimal.isDigit
      | _ => []
    let behindFraction := if fraction.isEmpty then behind else behind.drop (fraction.length + 1)
    let (shift, powerLength) : Option Int × Nat := match behindFraction with
      | e :: power =>
          if e = 'e' ∨ e = 'E' then
            let (down, digits) := Decimal.takeSign power
            let digits := digits.takeWhile Decimal.isDigit
            if digits.isEmpty then (none, 0)
            else
              let amount : Int := Decimal.valueOf digits
              let signLength := power.length - (Decimal.takeSign power).2.length
              (some (if down then -amount else amount), 1 + signLength + digits.length)
          else (none, 0)
      | [] => (none, 0)
    let length := (if negative then 1 else 0) + whole.length +
      (if fraction.isEmpty then 0 else fraction.length + 1) + powerLength
    let behind := rest.drop length
    if fraction.isEmpty && shift.isNone then
      if Decimal.digitLimit < whole.length then .error (.tooManyDigits whole.length)
      else
        let n : Int := Decimal.valueOf whole
        .ok (some (.int (if negative then -n else n), behind))
    else
      let x := Decimal.nearest (Decimal.valueOf (whole ++ fraction))
        (shift.getD 0 - (fraction.length : Int))
      .ok (some (.float (if negative then -x else x), behind))

def hasAtFront (word : String) (rest : Rest) : Bool := word.toList.isPrefixOf rest.text

/-- Stores a member of an object; an equal key keeps its place. -/
def setMember (members : List (Value × Value)) (key : String) (value : Value) :
    List (Value × Value) :=
  if members.any fun member => match member.1 with | .text name => name == key | _ => false then
    members.map fun member => match member.1 with
      | .text name => if name == key then (member.1, value) else member
      | _ => member
  else members ++ [(.text key, value)]

mutual

/-- Reads one value at the front, inside of `depth` lists and objects. -/
def readValue (fuel depth : Nat) (rest : Rest) : Except Error (Value × Rest) :=
  match fuel with
  | 0 => .error (.malformed .expectingValue rest.position)
  | fuel + 1 =>
      match rest.text with
      | '"' :: _ => do
          let (text, rest) ← readString (rest.text.length + 1) rest.position [] (rest.drop 1)
          return (.text text, rest)
      | '[' :: _ =>
          let inside := (rest.drop 1).skipSpace
          if depthLimit ≤ depth then .error (.tooDeep false)
          else match inside.text with
            | ']' :: _ => .ok (.list none [], inside.drop 1)
            | _ => readItems fuel depth [] inside
      | '\x7b' :: _ =>
          let inside := (rest.drop 1).skipSpace
          if depthLimit ≤ depth then .error (.tooDeep true)
          else match inside.text with
            | '\x7d' :: _ => .ok (.map none [], inside.drop 1)
            | _ => readMembers fuel depth [] inside
      | _ =>
          if hasAtFront "null" rest then .ok (.null, rest.drop 4)
          else if hasAtFront "true" rest then .ok (.bool true, rest.drop 4)
          else if hasAtFront "false" rest then .ok (.bool false, rest.drop 5)
          else if hasAtFront "NaN" rest then .ok (.float Decimal.notANumber, rest.drop 3)
          else if hasAtFront "Infinity" rest then .ok (.float Decimal.infinity, rest.drop 8)
          else if hasAtFront "-Infinity" rest then .ok (.float (-Decimal.infinity), rest.drop 9)
          else do
            match ← readNumber rest with
            | some found => return found
            | none => throw (.malformed .expectingValue rest.position)
  termination_by structural fuel

/-- Reads the items of a list from its next item on; `read` holds those before, the last first. -/
def readItems (fuel depth : Nat) (read : List Value) (rest : Rest) : Except Error (Value × Rest) :=
  match fuel with
  | 0 => .error (.malformed .expectingValue rest.position)
  | fuel + 1 => do
      let (item, behind) ← readValue fuel (depth + 1) rest
      let next := behind.skipSpace
      match next.text with
      | ']' :: _ => return (.list none (item :: read).reverse, next.drop 1)
      | ',' :: _ => readItems fuel depth (item :: read) (next.drop 1).skipSpace
      | _ => throw (.malformed .expectingComma next.position)
  termination_by structural fuel

/-- Reads the members of an object from its next name on. -/
def readMembers (fuel depth : Nat) (read : List (Value × Value)) (rest : Rest) :
    Except Error (Value × Rest) :=
  match fuel with
  | 0 => .error (.malformed .expectingName rest.position)
  | fuel + 1 =>
      match rest.text with
      | '"' :: _ => do
          let (key, behind) ← readString (rest.text.length + 1) rest.position [] (rest.drop 1)
          let colon := behind.skipSpace
          match colon.text with
          | ':' :: _ =>
              let (value, behind) ← readValue fuel (depth + 1) (colon.drop 1).skipSpace
              let members := setMember read key value
              let next := behind.skipSpace
              match next.text with
              | '\x7d' :: _ => return (.map none members, next.drop 1)
              | ',' :: _ => readMembers fuel depth members (next.drop 1).skipSpace
              | _ => throw (.malformed .expectingComma next.position)
          | _ => throw (.malformed .expectingColon colon.position)
      | _ => .error (.malformed .expectingName rest.position)
  termination_by structural fuel

end

/-- Reads a text that holds one value and white space around it. -/
def read (text : String) : Except Error Value := do
  let start : Rest := ⟨0, text.toList⟩
  if hasAtFront "\uFEFF" start then throw (.malformed .byteOrderMark 0)
  let (value, behind) ← readValue (start.text.length + 1) 0 start.skipSpace
  let behind := behind.skipSpace
  if behind.text.isEmpty then return value
  throw (.malformed .extraData behind.position)

end Rulebook.Json
