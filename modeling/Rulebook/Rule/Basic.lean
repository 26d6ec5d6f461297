import Rulebook.Yaml.Tree

/-!
Classification rules. Every field but the id may be left unset, so that a rule of a higher tier
can amend one of a lower tier with only the fields it cares about (`Rule.overlay`).
-/

namespace Rulebook

structure Rule where
  id : String
  pattern : Option String := none
  category : Option String := none
  weight : Option Float := none
  frameworks : Option (List String) := none
  description : Option String := none
  deriving BEq, Inhabited

namespace Rule

/-- All that scoring needs is set. -/
def isComplete (rule : Rule) : Bool :=
  rule.pattern.isSome && rule.category.isSome && rule.weight.isSome

/-- The rule applies whatever the framework of a project is. -/
def isGlobal (rule : Rule) : Bool := rule.frameworks.isNone

/-- Every field that `amendment` sets replaces the one of `rule`. -/
def overlay (rule amendment : Rule) : Rule where
  id := amendment.id
  pattern := amendment.pattern.or rule.pattern
  category := amendment.category.or rule.category
  weight := amendment.weight.or rule.weight
  frameworks := amendment.frameworks.or rule.frameworks
  description := amendment.description.or rule.description

/-- The fields that are set, in the order in which documents write them. -/
def toEntries (rule : Rule) : List (String × Yaml.Tree) :=
  [some ("id", .text rule.id),
   rule.pattern.map fun pattern => ("pattern", .text pattern),
   rule.category.map fun category => ("category", .text category),
   rule.weight.map fun weight => ("weight", .number weight),
   rule.frameworks.map fun names => ("frameworks", .list (names.map .text)),
   rule.description.map fun description => ("description", .text description)].filterMap
    fun field => field

/-- Why a value is no rule. -/
inductive ReadError where
  | missingId
  | tooManyDigits
  | notNumeric (kind : String)
  | unreadableNumber (text : String)
  | numberTooLarge
  | notIterable (kind : String)
  deriving DecidableEq, Repr

def ReadError.message : ReadError → String
  | missingId => Text.quoted "id"
  | tooManyDigits =>
      s!"Exceeds the limit ({Decimal.digitLimit} digits) for integer string conversion; " ++
      "use sys.set_int_max_str_digits() to increase the limit"
  | notNumeric kind => s!"float() argument must be a string or a real number, not '{kind}'"
  | unreadableNumber text => "could not convert string to float: " ++ Text.quoted text
  | numberTooLarge => "int too large to convert to float"
  | notIterable kind => s!"'{kind}' object is not iterable"

/-- A field that holds a text: any value but null is written out. -/
def readText : Option Value → Except ReadError (Option String)
  | none | some .null => .ok none
  | some value => if value.isWritable then .ok (some value.asText) else .error .tooManyDigits

/-- The double that a number, a truth value or a text with a number stands for. -/
def readNumber : Value → Except ReadError Float
  | .float value => .ok value
  | .bool value => .ok (if value then 1.0 else 0.0)
  | .int value => match Decimal.ofInteger? value with
      | some number => .ok number
      | none => .error .numberTooLarge
  | .text value => match Decimal.readFloat? value with
      | some number => .ok number
      | none => .error (.unreadableNumber value)
  | value => .error (.notNumeric value.kind)

def readWeight : Option Value → Except ReadError (Option Float)
  | none | some .null => .ok none
  | some value => (readNumber value).map some

/-- The members of a value that has any: a text has its characters, a mapping its keys. -/
def members : Value → Except ReadError (List Value)
  | .text value => .ok (value.toList.map fun c => .text (String.singleton c))
  | .list _ items => .ok items
  | .map _ entries => .ok (entries.map (·.1))
  | .set items => .ok items
  | .pair first second => .ok [first, second]
  | .bytes value => .ok (value.map fun byte => .int byte.toNat)
  | value => .error (.notIterable value.kind)

def readNames : Option Value → Except ReadError (Option (List String))
  | none | some .null => .ok none
  | some value => do
      let found ← members value
      if found.all Value.isWritable then return some (found.map Value.asText)
      throw .tooManyDigits

/-- Reads a mapping as a rule; keys that are no field of a rule are ignored. The first field that
cannot be read decides the error. -/
def ofValue (value : Value) : Except ReadError Rule := do
  let some idValue := value.get? "id" | throw .missingId
  if !idValue.isWritable then throw .tooManyDigits
  let pattern ← readText (value.get? "pattern")
  let category ← readText (value.get? "category")
  let weight ← readWeight (value.get? "weight")
  let frameworks ← readNames (value.get? "frameworks")
  let description ← readText (value.get? "description")
  return { id := idValue.asText, pattern, category, weight, frameworks, description }

end Rule

end Rulebook
