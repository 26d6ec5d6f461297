import Rulebook.Document
import Rulebook.Proofs.Running

namespace Rulebook.Document

/-- A fault, and the path of names and positions to the part that it is a fault of. -/
abbrev Placed := Fault × List String

def kindFaults (expected : List Kind) (path : List String) (value : Value) : List Placed :=
  if expected.any (·.admits value) then [] else [(.wrongKind value expected, path)]

def fieldFaults (value : Value) (name : String) (path : List String)
    (faults : List String → Value → List Placed) : List Placed :=
  match value.get? name with
  | none => []
  | some field => faults (path ++ [name]) field

def itemFaultsFrom (index : Nat) (path : List String)
    (faults : List String → Value → List Placed) : List Value → List Placed
  | [] => []
  | item :: rest =>
      faults (path ++ [toString index]) item ++ itemFaultsFrom (index + 1) path faults rest

def itemFaults (faults : List String → Value → List Placed) (path : List String) :
    Value → List Placed
  | .list _ items => itemFaultsFrom 0 path faults items
  | _ => []

def nameFaults (path : List String) (value : Value) : List Placed :=
  kindFaults [.list] path value ++ itemFaults (kindFaults [.text]) path value

def idFaults (path : List String) (value : Value) : List Placed :=
  kindFaults [.text] path value ++ match value with
    | .text "" => [(.empty, path)]
    | _ => []

/-- The faults of a rule; a value that is no mapping has no fields to look for. -/
def ruleFaults (path : List String) (value : Value) : List Placed :=
  if Kind.map.admits value then
    (if (value.get? "id").isNone then [(.missing "id", path)] else []) ++
    fieldFaults value "id" path idFaults ++
    fieldFaults value "pattern" path (kindFaults [.text]) ++
    fieldFaults value "category" path (kindFaults [.text]) ++
    fieldFaults value "weight" path (kindFaults [.number]) ++
    fieldFaults value "frameworks" path nameFaults ++
    fieldFaults value "description" path (kindFaults [.text, .null])
  else kindFaults [.map] path value

def rulesFaults (path : List String) (value : Value) : List Placed :=
  kindFaults [.list, .null] path value ++ itemFaults ruleFaults path value

/-- The faults of a mapping. -/
def faults (value : Value) : List Placed :=
  fieldFaults value "version" [] (kindFaults [.text, .number]) ++
  fieldFaults value "language" [] (kindFaults [.text]) ++
  fieldFaults value "framework" [] (kindFaults [.text, .null]) ++
  fieldFaults value "extends" [] nameFaults ++
  fieldFaults value "rules" [] rulesFaults

/-- What is told about a fault. -/
def told : Placed → Failure
  | (.wrongKind value expected, path) => wrongKind value expected path
  | (fault, path) => .invalid (.illFormed fault path)

/-- What is told about the first fault, if there is one. -/
def firstTold : List Placed → Except Failure Unit
  | [] => .ok ()
  | placed :: _ => .error (told placed)

/-- A check of a part tells about the first of its faults. -/
def TellsFirst (check : List String → Value → Except Failure Unit)
    (faults : List String → Value → List Placed) : Prop :=
  ∀ path value, check path value = firstTold (faults path value)

theorem firstTold_append (first second : List Placed) :
    firstTold (first ++ second) = (do firstTold first; firstTold second) := by
  cases first <;> rfl

variable {check : List String → Value → Except Failure Unit}
  {found : List String → Value → List Placed}

theorem checkKind_tellsFirst (expected : List Kind) :
    TellsFirst (checkKind expected) (kindFaults expected) := by
  intro path value
  unfold checkKind kindFaults
  split <;> rfl

theorem checkField_eq (tells : TellsFirst check found) (value : Value) (name : String)
    (path : List String) :
    checkField value name path check = firstTold (fieldFaults value name path found) := by
  unfold checkField fieldFaults
  cases value.get? name with
  | none => rfl
  | some field => exact tells _ field

theorem checkItemsFrom_eq (tells : TellsFirst check found) (index : Nat) (path : List String)
    (items : List Value) :
    checkItemsFrom index path check items = firstTold (itemFaultsFrom index path found items) := by
  induction items generalizing index with
  | nil => rfl
  | cons item rest ih =>
      rw [checkItemsFrom, itemFaultsFrom, firstTold_append, tells]
      simp only [ih]

theorem checkItems_tellsFirst (tells : TellsFirst check found) :
    TellsFirst (checkItems check) (itemFaults found) := by
  intro path value
  cases value with
  | list loop items => exact checkItemsFrom_eq tells 0 path items
  | _ => rfl

theorem checkNames_tellsFirst : TellsFirst checkNames nameFaults := by
  intro path value
  simp only [checkNames, nameFaults, firstTold_append, checkKind_tellsFirst _ path value,
    checkItems_tellsFirst (checkKind_tellsFirst [.text]) path value]

theorem checkId_tellsFirst : TellsFirst checkId idFaults := by
  intro path value
  simp only [checkId, idFaults, firstTold_append, checkKind_tellsFirst _ path value]
  congr 1
  funext _
  cases value with
  | text name =>
      by_cases unnamed : name = ""
      · subst unnamed
        rfl
      · simp [unnamed, firstTold]
        rfl
  | _ => rfl

theorem checkRule_tellsFirst : TellsFirst checkRule ruleFaults := by
  intro path value
  unfold ruleFaults
  by_cases isMap : Kind.map.admits value
  · have kind : checkKind [.map] path value = .ok () := by simp [checkKind, isMap]
    rw [if_pos isMap]
    simp only [checkRule, kind, List.append_assoc, firstTold_append,
      checkField_eq checkId_tellsFirst, checkField_eq checkNames_tellsFirst,
      checkField_eq (checkKind_tellsFirst _)]
    cases (value.get? "id").isNone <;> rfl
  · have faulty : kindFaults [.map] path value = [(.wrongKind value [.map], path)] := by
      simp [kindFaults, isMap]
    rw [if_neg isMap, faulty]
    simp only [checkRule, checkKind_tellsFirst _ path value, faulty]
    rfl

theorem checkRules_tellsFirst : TellsFirst checkRules rulesFaults := by
  intro path value
  simp only [checkRules, rulesFaults, firstTold_append, checkKind_tellsFirst _ path value,
    checkItems_tellsFirst checkRule_tellsFirst path value]

/-- Checking a mapping tells about its first fault. -/
theorem check_eq_firstTold (value : Value) : Document.check value = firstTold (faults value) := by
  simp only [Document.check, faults, List.append_assoc, firstTold_append,
    checkField_eq (checkKind_tellsFirst _), checkField_eq checkNames_tellsFirst,
    checkField_eq checkRules_tellsFirst]

/-- The value is of one of the kinds. -/
def IsOf (kinds : List Kind) (value : Value) : Prop := kinds.any (·.admits value) = true

/-- A field is as it should be, if the value has it. -/
def Field (value : Value) (name : String) (proper : Value → Prop) : Prop :=
  ∀ field, value.get? name = some field → proper field

/-- A list whose items are as they should be. -/
def IsListOf (proper : Value → Prop) : Value → Prop
  | .list _ items => ∀ item ∈ items, proper item
  | _ => False

def IsName : Value → Prop
  | .text name => name ≠ ""
  | _ => False

structure IsRule (value : Value) : Prop where
  isMap : IsOf [.map] value
  hasId : (value.get? "id").isSome
  id : Field value "id" IsName
  pattern : Field value "pattern" (IsOf [.text])
  category : Field value "category" (IsOf [.text])
  weight : Field value "weight" (IsOf [.number])
  frameworks : Field value "frameworks" (IsListOf (IsOf [.text]))
  description : Field value "description" (IsOf [.text, .null])

/-- Rules, or null in their place. -/
def IsRules (value : Value) : Prop := IsOf [.null] value ∨ IsListOf IsRule value

/-- The fields of a document are as they should be. -/
structure Conforms (value : Value) : Prop where
  version : Field value "version" (IsOf [.text, .number])
  language : Field value "language" (IsOf [.text])
  framework : Field value "framework" (IsOf [.text, .null])
  parents : Field value "extends" (IsListOf (IsOf [.text]))
  rules : Field value "rules" IsRules

/-- The values without faults are those of a form. -/
def Describe (faults : List String → Value → List Placed) (proper : Value → Prop) : Prop :=
  ∀ path value, faults path value = [] ↔ proper value

variable {proper : Value → Prop}

theorem kindFaults_describe (kinds : List Kind) : Describe (kindFaults kinds) (IsOf kinds) := by
  intro path value
  simp [kindFaults, IsOf]

theorem fieldFaults_eq_nil (describes : Describe found proper) (value : Value) (name : String)
    (path : List String) :
    fieldFaults value name path found = [] ↔ Field value name proper := by
  unfold fieldFaults Field
  cases value.get? name with
  | none => simp
  | some field => simpa using describes (path ++ [name]) field

theorem itemFaultsFrom_eq_nil (describes : Describe found proper) (index : Nat)
    (path : List String) (items : List Value) :
    itemFaultsFrom index path found items = [] ↔ ∀ item ∈ items, proper item := by
  induction items generalizing index with
  | nil => simp [itemFaultsFrom]
  | cons item rest ih =>
      simp only [itemFaultsFrom, List.append_eq_nil_iff, describes _ item, ih, List.forall_mem_cons]

theorem nameFaults_describe : Describe nameFaults (IsListOf (IsOf [.text])) := by
  intro path value
  cases value with
  | list loop items =>
      have texts := itemFaultsFrom_eq_nil (kindFaults_describe [.text]) 0 path items
      simp [nameFaults, kindFaults, itemFaults, IsListOf, texts, Kind.admits]
  | _ => simp [nameFaults, kindFaults, itemFaults, IsListOf, Kind.admits]

theorem idFaults_describe : Describe idFaults IsName := by
  intro path value
  cases value with
  | text name =>
      by_cases unnamed : name = "" <;> simp [idFaults, kindFaults, Kind.admits, IsName, unnamed]
  | _ => simp [idFaults, kindFaults, Kind.admits, IsName]

theorem ruleFaults_describe : Describe ruleFaults IsRule := by
  intro path value
  by_cases isMap : Kind.map.admits value
  · have hasId : (if (value.get? "id").isNone then [(Fault.missing "id", path)] else []) = [] ↔
        (value.get? "id").isSome := by cases value.get? "id" <;> simp
    simp only [ruleFaults, if_pos isMap, List.append_eq_nil_iff, hasId,
      fieldFaults_eq_nil idFaults_describe, fieldFaults_eq_nil nameFaults_describe,
      fieldFaults_eq_nil (kindFaults_describe _)]
    constructor
    · rintro ⟨⟨⟨⟨⟨⟨hasId, id⟩, pattern⟩, category⟩, weight⟩, frameworks⟩, description⟩
      exact ⟨by simpa [IsOf] using isMap, hasId, id, pattern, category, weight, frameworks,
        description⟩
    · rintro ⟨-, hasId, id, pattern, category, weight, frameworks, description⟩
      exact ⟨⟨⟨⟨⟨⟨hasId, id⟩, pattern⟩, category⟩, weight⟩, frameworks⟩, description⟩
  · rw [ruleFaults, if_neg isMap, kindFaults_describe]
    exact ⟨fun mapping => absurd mapping (by simpa [IsOf] using isMap), fun rule => rule.isMap⟩

theorem rulesFaults_describe : Describe rulesFaults IsRules := by
  intro path value
  cases value with
  | list loop items =>
      have texts := itemFaultsFrom_eq_nil ruleFaults_describe 0 path items
      simp [rulesFaults, kindFaults, itemFaults, IsRules, IsOf, IsListOf, texts, Kind.admits]
  | _ => simp [rulesFaults, kindFaults, itemFaults, IsRules, IsOf, IsListOf, Kind.admits]

theorem faults_eq_nil_iff (value : Value) : faults value = [] ↔ Conforms value := by
  simp only [faults, List.append_eq_nil_iff, fieldFaults_eq_nil (kindFaults_describe _),
    fieldFaults_eq_nil nameFaults_describe, fieldFaults_eq_nil rulesFaults_describe]
  constructor
  · rintro ⟨⟨⟨⟨version, language⟩, framework⟩, parents⟩, rules⟩
    exact ⟨version, language, framework, parents, rules⟩
  · rintro ⟨version, language, framework, parents, rules⟩
    exact ⟨⟨⟨⟨version, language⟩, framework⟩, parents⟩, rules⟩

end Rulebook.Document
