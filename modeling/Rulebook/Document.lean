import Rulebook.Rule.Basic
import Rulebook.Yaml.Printer
import Rulebook.Yaml.Reading

/-!
Rule documents: their form, how they are read from a value or a text, and how they are written.
-/

namespace Rulebook

structure Document where
  origin : String
  version : String := ""
  language : String := "general"
  framework : Option String := none
  parents : List String := []
  rules : List Rule := []
  deriving BEq, Inhabited

namespace Document

/-! ## The form of a document -/

/-- The kinds of values that the form tells apart. A truth value is no number. -/
inductive Kind where
  | text
  | number
  | null
  | list
  | map
  deriving DecidableEq, Repr

def Kind.name : Kind → String
  | text => "string"
  | number => "number"
  | null => "null"
  | list => "array"
  | map => "object"

def Kind.admits : Kind → Value → Bool
  | text, .text _ => true
  | number, .int _ => true
  | number, .float _ => true
  | null, .null => true
  | list, .list .. => true
  | map, .map .. => true
  | _, _ => false

/-- How a part of a document departs from the form. -/
inductive Fault where
  | wrongKind (value : Value) (expected : List Kind)
  | missing (field : String)
  | empty

def Fault.message : Fault → String
  | wrongKind value expected =>
      let kinds := expected.map fun kind => Text.quoted kind.name
      value.literal ++ " is not of type " ++ ", ".intercalate kinds
  | missing field => Text.quoted field ++ " is a required property"
  | empty => Text.quoted "" ++ " should be non-empty"

/-- Why a text is no document. -/
inductive Problem where
  | malformed (error : Yaml.Error)
  | notMapping
  /-- A fault of the part that a path of names and positions leads to. -/
  | illFormed (fault : Fault) (path : List String)

/-- What is told about a problem of a text. -/
def Problem.detail (text : String) : Problem → String
  | malformed error => "malformed YAML: " ++ error.message text
  | notMapping => "must be a YAML mapping"
  | illFormed fault path =>
      if path.isEmpty then fault.message else fault.message ++ " at " ++ ".".intercalate path

/-- Why reading ends without a document: the text is none, it holds a scalar or a number that
cannot be taken in, or it is nested too deep. -/
inductive Failure where
  | invalid (problem : Problem)
  | badScalar (error : Yaml.ScalarError)
  | tooDeep
  | badField (error : Rule.ReadError)

/-- A value departs from the form. It can only be told about if it can be written out. -/
def wrongKind (value : Value) (expected : List Kind) (path : List String) : Failure :=
  if value.isWritable then .invalid (.illFormed (.wrongKind value expected) path)
  else .badField .tooManyDigits

def checkKind (expected : List Kind) (path : List String) (value : Value) :
    Except Failure Unit :=
  if expected.any (·.admits value) then .ok () else .error (wrongKind value expected path)

/-- Checks the value of a field, if there is one. -/
def checkField (value : Value) (name : String) (path : List String)
    (check : List String → Value → Except Failure Unit) : Except Failure Unit :=
  match value.get? name with
  | none => .ok ()
  | some field => check (path ++ [name]) field

/-- Checks items from the position `index` on. -/
def checkItemsFrom (index : Nat) (path : List String)
    (check : List String → Value → Except Failure Unit) : List Value → Except Failure Unit
  | [] => .ok ()
  | item :: rest => do
      check (path ++ [toString index]) item
      checkItemsFrom (index + 1) path check rest

def checkItems (check : List String → Value → Except Failure Unit) (path : List String) :
    Value → Except Failure Unit
  | .list _ items => checkItemsFrom 0 path check items
  | _ => .ok ()

def checkNames (path : List String) (value : Value) : Except Failure Unit := do
  checkKind [.list] path value
  checkItems (checkKind [.text]) path value

def checkId (path : List String) (value : Value) : Except Failure Unit := do
  checkKind [.text] path value
  match value with
  | .text "" => throw (.invalid (.illFormed .empty path))
  | _ => return

def checkRule (path : List String) (value : Value) : Except Failure Unit := do
  checkKind [.map] path value
  if (value.get? "id").isNone then throw (.invalid (.illFormed (.missing "id") path))
  checkField value "id" path checkId
  checkField value "pattern" path (checkKind [.text])
  checkField value "category" path (checkKind [.text])
  checkField value "weight" path (checkKind [.number])
  checkField value "frameworks" path checkNames
  checkField value "description" path (checkKind [.text, .null])

def checkRules (path : List String) (value : Value) : Except Failure Unit := do
  checkKind [.list, .null] path value
  checkItems checkRule path value

/-- Checks the form of a mapping; the first fault in the order of the fields decides. -/
def check (value : Value) : Except Failure Unit := do
  checkField value "version" [] (checkKind [.text, .number])
  checkField value "language" [] (checkKind [.text])
  checkField value "framework" [] (checkKind [.text, .null])
  checkField value "extends" [] checkNames
  checkField value "rules" [] checkRules

/-! ## Reading -/

def textOf : Option Value → Option String
  | some (.text value) => some value
  | _ => none

def itemsOf : Option Value → List Value
  | some (.list _ items) => items
  | _ => []

/-- The version as a text; a number is written out. -/
def versionOf : Option Value → Except Failure String
  | none | some .null => .ok ""
  | some value =>
      if value.isWritable then .ok value.asText else .error (.badField .tooManyDigits)

/-- Reads a mapping of the right form. An empty language is the general one. -/
def ofFields (origin : String) (value : Value) : Except Failure Document := do
  let version ← versionOf (value.get? "version")
  let language := match textOf (value.get? "language") with
    | none | some "" => "general"
    | some language => language
  let rules ← (itemsOf (value.get? "rules")).mapM fun item =>
    (Rule.ofValue item).mapError .badField
  return {
    origin, version, language
    framework := textOf (value.get? "framework")
    parents := (itemsOf (value.get? "extends")).filterMap fun item => textOf (some item)
    rules }

/-- Reads a value as a document; null is an empty one. -/
def ofValue (origin : String) (value : Value) : Except Failure Document :=
  match value with
  | .null => .ok { origin }
  | .map .. => do
      check value
      ofFields origin value
  | _ => .error (.invalid .notMapping)

/-- Reads a text as a document. -/
def read (text origin : String) : Except Failure Document :=
  match Yaml.read text with
  | .error (.malformed error) => .error (.invalid (.malformed error))
  | .error (.badScalar error) => .error (.badScalar error)
  | .error .tooDeep => .error .tooDeep
  | .ok value => ofValue origin value

/-! ## Writing -/

/-- The fields of a document as it is written. An empty version, framework or list of extensions
is left out. -/
def toEntries (document : Document) : List (String × Yaml.Tree) :=
  (if document.version = "" then [] else [("version", .text document.version)]) ++
  [("language", .text document.language)] ++
  (match document.framework with
    | none | some "" => []
    | some framework => [("framework", .text framework)]) ++
  (if document.parents.isEmpty then []
    else [("extends", .list (document.parents.map .text))]) ++
  [("rules", .list (document.rules.map fun rule => .map rule.toEntries))]

def toText (document : Document) : String := Yaml.write document.toEntries

end Document

end Rulebook
