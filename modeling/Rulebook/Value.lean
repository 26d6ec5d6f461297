import Rulebook.Calendar
import Rulebook.Decimal.Layout
import Rulebook.Decimal.Reading
import Rulebook.Text.Quoted

/-!
Dynamic values: what a rule document or a JSON text holds before it is read as rules.
-/

namespace Rulebook

/-- A value of a document. Mappings keep the order of their entries. A list or mapping that
contains itself has a number in `loop`, the same at all its occurrences; its inner occurrences may
leave out their content. -/
inductive Value where
  | null
  | bool (value : Bool)
  | int (value : Int)
  | float (value : Float)
  | text (value : String)
  | bytes (value : List UInt8)
  | date (year month day : Nat)
  | moment (value : Moment)
  | list (loop : Option Nat) (items : List Value)
  | pair (first second : Value)
  | set (items : List Value)
  | map (loop : Option Nat) (entries : List (Value × Value))
  deriving Inhabited

namespace Value

/-- The word for the kind of value in messages. -/
def kind : Value → String
  | null => "NoneType"
  | bool _ => "bool"
  | int _ => "int"
  | float _ => "float"
  | text _ => "str"
  | bytes _ => "bytes"
  | date .. => "datetime.date"
  | moment _ => "datetime.datetime"
  | list .. => "list"
  | pair .. => "tuple"
  | set _ => "set"
  | map .. => "dict"

/-- A length of time, in days and a remainder of seconds. -/
def distanceLiteral (seconds : Int) : String :=
  let days := seconds.fdiv 86400
  let rest := seconds.fmod 86400
  let parts := (if days = 0 then [] else [s!"days={days}"]) ++
    (if rest = 0 then [] else [s!"seconds={rest}"])
  "datetime.timedelta(" ++ ", ".intercalate parts ++ ")"

/-- A distance from universal time. -/
def offsetLiteral (seconds : Int) : String :=
  if seconds = 0 then "datetime.timezone.utc"
  else "datetime.timezone(" ++ distanceLiteral seconds ++ ")"

def momentLiteral (moment : Moment) : String :=
  let parts := [moment.year, moment.month, moment.day, moment.hour, moment.minute]
  let fine :=
    if moment.microsecond ≠ 0 then [moment.second, moment.microsecond]
    else if moment.second ≠ 0 then [moment.second] else []
  let zone := match moment.offset with
    | none => []
    | some seconds => ["tzinfo=" ++ offsetLiteral seconds]
  "datetime.datetime(" ++ ", ".intercalate ((parts ++ fine).map toString ++ zone) ++ ")"

mutual

/-- A value as messages show it. `within` holds the numbers of the loops the value stands in. -/
def literalWithin (within : List Nat) : Value → String
  | null => "None"
  | bool value => if value then "True" else "False"
  | int value => toString value
  | float value => Decimal.shortestText value
  | text value => Text.quoted value
  | bytes value => Text.quotedBytes value
  | date year month day => s!"datetime.date({year}, {month}, {day})"
  | moment value => momentLiteral value
  | list loop items =>
      if loop.any within.contains then "[...]"
      else "[" ++ ", ".intercalate (itemLiterals (loop.toList ++ within) items) ++ "]"
  | pair first second => "(" ++ literalWithin within first ++ ", " ++ literalWithin within second ++ ")"
  | set items =>
      if items.isEmpty then "set()"
      else "\x7b" ++ ", ".intercalate (itemLiterals within items) ++ "\x7d"
  | map loop entries =>
      if loop.any within.contains then "\x7b...\x7d"
      else "\x7b" ++ ", ".intercalate (entryLiterals (loop.toList ++ within) entries) ++ "\x7d"

def itemLiterals (within : List Nat) : List Value → List String
  | [] => []
  | item :: rest => literalWithin within item :: itemLiterals within rest

def entryLiterals (within : List Nat) : List (Value × Value) → List String
  | [] => []
  | (key, value) :: rest =>
      (literalWithin within key ++ ": " ++ literalWithin within value) :: entryLiterals within rest

end

/-- A value as messages show it. -/
def literal (value : Value) : String := literalWithin [] value

/-- A value as a text: texts stand for themselves. -/
def asText : Value → String
  | text value => value
  | value => value.literal

mutual

/-- Every integer inside the value is short enough to be written out. -/
def isWritable : Value → Bool
  | int value => value.natAbs < Nat.pow 10 Decimal.digitLimit
  | list _ items => areWritable items
  | pair first second => isWritable first && isWritable second
  | set items => areWritable items
  | map _ entries => entriesWritable entries
  | _ => true

def areWritable : List Value → Bool
  | [] => true
  | item :: rest => isWritable item && areWritable rest

def entriesWritable : List (Value × Value) → Bool
  | [] => true
  | (key, value) :: rest => isWritable key && isWritable value && entriesWritable rest

end

/-- What makes a value as a key of a mapping the same as another: numbers and truth values count by
their amount, and moments with a known distance from universal time by their instant. -/
inductive Key where
  | null
  | whole (value : Int)
  | fraction (value : Decimal.Binary)
  | text (value : String)
  | bytes (value : List UInt8)
  | date (year month day : Nat)
  | moment (value : Moment)
  | instant (microseconds : Int)
  | other
  deriving DecidableEq, Repr

def numberKey (value : Float) : Key :=
  let binary := Decimal.Binary.ofFloat value
  match binary with
  | .finite negative mantissa exponent =>
      let (numerator, denominator) := Decimal.Binary.fraction mantissa exponent
      if numerator % denominator = 0 then
        let magnitude : Int := (numerator / denominator : Nat)
        .whole (if negative then -magnitude else magnitude)
      else .fraction binary
  | _ => .fraction binary

/-- The value as a key; collections are none. -/
def key : Value → Key
  | null => .null
  | bool value => .whole (if value then 1 else 0)
  | int value => .whole value
  | float value => numberKey value
  | text value => .text value
  | bytes value => .bytes value
  | date year month day => .date year month day
  | moment value => match value.instant? with
      | some microseconds => .instant microseconds
      | none => .moment value
  | _ => .other

/-- The value at a key of a mapping. -/
def get? (value : Value) (key : String) : Option Value :=
  match value with
  | map _ entries =>
      (entries.find? fun entry => match entry.1 with
        | text name => name == key
        | _ => false).map (·.2)
  | _ => none

end Value

end Rulebook
