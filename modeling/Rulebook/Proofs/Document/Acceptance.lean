import Rulebook.Proofs.Document.Place
import Rulebook.Proofs.Document.Reading
import Rulebook.Proofs.Yaml.Tree

namespace Rulebook

namespace Value

/-- The part stands somewhere in the value, as a key of a mapping, too. -/
inductive Holds (part : Value) : Value → Prop
  | whole : Holds part part
  | item {loop : Option Nat} {items : List Value} {item : Value} (member : item ∈ items)
      (inside : Holds part item) : Holds part (.list loop items)
  | first {first second : Value} (inside : Holds part first) : Holds part (.pair first second)
  | second {first second : Value} (inside : Holds part second) : Holds part (.pair first second)
  | member {items : List Value} {item : Value} (member : item ∈ items)
      (inside : Holds part item) : Holds part (.set items)
  | key {loop : Option Nat} {entries : List (Value × Value)} {entry : Value × Value}
      (member : entry ∈ entries) (inside : Holds part entry.1) : Holds part (.map loop entries)
  | value {loop : Option Nat} {entries : List (Value × Value)} {entry : Value × Value}
      (member : entry ∈ entries) (inside : Holds part entry.2) : Holds part (.map loop entries)

/-- No integer in the value is beyond the range of doubles. -/
def InRange (value : Value) : Prop :=
  ∀ number : Int, Holds (.int number) value → number.natAbs < Decimal.rangeLimit

variable {value part : Value} {name : String}

@[simp] theorem holds_text {text : String} : Holds part (.text text) ↔ part = .text text := by
  constructor
  · rintro ⟨⟩
    rfl
  · rintro rfl
    exact .whole

@[simp] theorem holds_float {number : Float} :
    Holds part (.float number) ↔ part = .float number := by
  constructor
  · rintro ⟨⟩
    rfl
  · rintro rfl
    exact .whole

@[simp] theorem holds_list {loop : Option Nat} {items : List Value} :
    Holds part (.list loop items) ↔
      part = .list loop items ∨ ∃ item ∈ items, Holds part item := by
  constructor
  · rintro (_ | ⟨member, inside⟩)
    · exact .inl rfl
    · exact .inr ⟨_, member, inside⟩
  · rintro (rfl | ⟨item, member, inside⟩)
    · exact .whole
    · exact .item member inside

@[simp] theorem holds_map {loop : Option Nat} {entries : List (Value × Value)} :
    Holds part (.map loop entries) ↔
      part = .map loop entries ∨ ∃ entry ∈ entries, Holds part entry.1 ∨ Holds part entry.2 := by
  constructor
  · intro inside
    cases inside with
    | whole => exact .inl rfl
    | key member inside => exact .inr ⟨_, member, .inl inside⟩
    | value member inside => exact .inr ⟨_, member, .inr inside⟩
  · rintro (rfl | ⟨entry, member, inside | inside⟩)
    · exact .whole
    · exact .key member inside
    · exact .value member inside

theorem InRange.field (inRange : value.InRange) (held : value.get? name = some part) :
    part.InRange := by
  intro number inside
  cases value with
  | map loop entries =>
      obtain ⟨entry, found, rfl⟩ := Option.map_eq_some_iff.mp held
      exact inRange number (.value (List.mem_of_find?_eq_some found) inside)
  | _ => cases held

theorem InRange.item {loop : Option Nat} {items : List Value}
    (inRange : (Value.list loop items).InRange) (member : part ∈ items) : part.InRange :=
  fun number inside => inRange number (.item member inside)

theorem rangeLimit_lt_digitLimit : Decimal.rangeLimit < 10 ^ Decimal.digitLimit := by
  decide +kernel

mutual

theorem InRange.isWritable (value : Value) (inRange : value.InRange) : value.isWritable := by
  cases value with
  | int number =>
      have short := Nat.lt_trans (inRange number .whole) rangeLimit_lt_digitLimit
      simp only [Value.isWritable, Nat.pow_eq, short, decide_true]
  | list loop items =>
      exact areWritable_of_inRange items fun item member number inside =>
        inRange number (.item member inside)
  | pair first second =>
      have firstWritable := InRange.isWritable first fun number inside =>
        inRange number (.first inside)
      have secondWritable := InRange.isWritable second fun number inside =>
        inRange number (.second inside)
      simp only [Value.isWritable, firstWritable, secondWritable, Bool.and_self]
  | set items =>
      exact areWritable_of_inRange items fun item member number inside =>
        inRange number (.member member inside)
  | map loop entries =>
      exact entriesWritable_of_inRange entries fun entry member =>
        ⟨fun number inside => inRange number (.key member inside),
          fun number inside => inRange number (.value member inside)⟩
  | _ => rfl

theorem areWritable_of_inRange (items : List Value) (inRange : ∀ item ∈ items, item.InRange) :
    areWritable items := by
  cases items with
  | nil => rfl
  | cons item rest =>
      obtain ⟨own, others⟩ := List.forall_mem_cons.mp inRange
      simp only [areWritable, InRange.isWritable item own, areWritable_of_inRange rest others,
        Bool.and_self]

theorem entriesWritable_of_inRange (entries : List (Value × Value))
    (inRange : ∀ entry ∈ entries, entry.1.InRange ∧ entry.2.InRange) :
    entriesWritable entries := by
  match entries with
  | [] => rfl
  | (key, value) :: rest =>
      obtain ⟨⟨keyInRange, valueInRange⟩, others⟩ := List.forall_mem_cons.mp inRange
      simp only [entriesWritable, InRange.isWritable key keyInRange,
        InRange.isWritable value valueInRange, entriesWritable_of_inRange rest others,
        Bool.and_self]

end

end Value

namespace Document

variable {value part : Value} {name origin : String} {document : Document}

theorem not_tooHeavy (inRange : value.InRange) : ¬ TooHeavy value := by
  rintro ⟨weight, held, heavy⟩
  have small := inRange.field held weight .whole
  exact absurd small (Nat.not_lt.mpr heavy)

theorem not_tooLong (inRange : value.InRange) : ¬ TooLong value := by
  rintro ⟨number, held, long⟩
  have small := inRange.field held number .whole
  have short := Nat.lt_trans small Value.rangeLimit_lt_digitLimit
  exact absurd short (Nat.not_lt.mpr long)

theorem inRange_itemsOf (inRange : value.InRange) :
    ∀ item ∈ itemsOf (value.get? name), item.InRange := by
  intro item member
  cases held : value.get? name with
  | none => simp [held, itemsOf] at member
  | some field =>
      cases field with
      | list loop items =>
          rw [held] at member
          exact (inRange.field held).item member
      | _ => simp [held, itemsOf] at member

theorem not_overflows (inRange : value.InRange) : ¬ Overflows value := by
  rintro (long | ⟨rule, member, heavy⟩)
  · exact not_tooLong inRange long
  · exact not_tooHeavy (inRange_itemsOf inRange rule member) heavy

namespace Departures

/-- The parts that are told of are in range. -/
def InRange (departures : Departures) : Prop :=
  ∀ steps part kinds, departures steps (.wrongKind part kinds) → part.InRange

variable {departures others : Departures} {inner : Value → Departures}

theorem InRange.or (first : departures.InRange) (second : others.InRange) :
    InRange fun steps fault => departures steps fault ∨ others steps fault :=
  fun steps part kinds departs =>
    departs.elim (first steps part kinds) (second steps part kinds)

theorem inRange_ofKinds {kinds : List Kind} (inRange : value.InRange) :
    (ofKinds kinds value).InRange := by
  rintro steps part expected ⟨-, told, -⟩
  cases told
  exact inRange

theorem inRange_ofField (inRange : value.InRange)
    (parts : ∀ part : Value, part.InRange → (inner part).InRange) :
    (ofField value name inner).InRange := by
  rintro steps part expected ⟨field, rest, held, -, departs⟩
  exact parts field (inRange.field held) rest part expected departs

theorem inRange_ofItems (inRange : value.InRange)
    (parts : ∀ part : Value, part.InRange → (inner part).InRange) :
    (ofItems value inner).InRange := by
  intro steps part expected departs
  cases value with
  | list loop items =>
      obtain ⟨index, item, rest, held, -, departs⟩ := departs
      exact parts item (inRange.item (List.mem_of_getElem? held)) rest part expected departs
  | _ => exact departs.elim

theorem inRange_ofNames (inRange : value.InRange) : (ofNames value).InRange :=
  (inRange_ofKinds inRange).or (inRange_ofItems inRange fun _ => inRange_ofKinds)

theorem inRange_ofId (inRange : value.InRange) : (ofId value).InRange := by
  rintro steps part expected (departs | ⟨-, -, told⟩)
  · exact inRange_ofKinds inRange steps part expected departs
  · cases told

theorem inRange_ofRule (inRange : value.InRange) : (ofRule value).InRange := by
  have fields : (ofRuleFields value).InRange := by
    rintro steps part expected (⟨-, -, told⟩ | departs)
    · cases told
    · exact (inRange_ofField inRange fun _ => inRange_ofId).or
        ((inRange_ofField inRange fun _ => inRange_ofKinds).or <|
          (inRange_ofField inRange fun _ => inRange_ofKinds).or <|
          (inRange_ofField inRange fun _ => inRange_ofKinds).or <|
          (inRange_ofField inRange fun _ => inRange_ofNames).or
            (inRange_ofField inRange fun _ => inRange_ofKinds)) steps part expected departs
  rintro steps part expected (departs | ⟨-, departs⟩)
  · exact inRange_ofKinds inRange steps part expected departs
  · exact fields steps part expected departs

theorem inRange_ofRules (inRange : value.InRange) : (ofRules value).InRange :=
  (inRange_ofKinds inRange).or (inRange_ofItems inRange fun _ => inRange_ofRule)

theorem inRange_ofDocument (inRange : value.InRange) : (ofDocument value).InRange :=
  (inRange_ofField inRange fun _ => inRange_ofKinds).or <|
    (inRange_ofField inRange fun _ => inRange_ofKinds).or <|
    (inRange_ofField inRange fun _ => inRange_ofKinds).or <|
    (inRange_ofField inRange fun _ => inRange_ofNames).or
      (inRange_ofField inRange fun _ => inRange_ofRules)

/-- Documents depart from the form in their fields only. -/
theorem ofDocument_inside {steps : List Step} {fault : Fault}
    (departs : ofDocument value steps fault) : steps ≠ [] := by
  rintro rfl
  rcases departs with departs | departs | departs | departs | departs <;>
  · obtain ⟨part, rest, -, here, -⟩ := departs
    cases here

end Departures

/-- The text of a field; none if the field is absent or null. -/
inductive TextRead : Option Value → Option String → Prop
  | absent : TextRead none none
  | null : TextRead (some .null) none
  | text (text : String) : TextRead (some (.text text)) (some text)

/-- The double of a number: the number itself or the double nearest to an integer. -/
inductive NumberRead : Option Value → Option Float → Prop
  | absent : NumberRead none none
  | float (number : Float) : NumberRead (some (.float number)) (some number)
  | int {number : Int} {nearest : Float} (rounded : Decimal.ofInteger? number = some nearest) :
      NumberRead (some (.int number)) (some nearest)

inductive NamesRead : Option Value → Option (List String) → Prop
  | absent : NamesRead none none
  | names (loop : Option Nat) (names : List String) :
      NamesRead (some (.list loop (names.map .text))) (some names)

/-- A version that is a number is written out. -/
inductive VersionRead : Option Value → String → Prop
  | absent : VersionRead none ""
  | text (text : String) : VersionRead (some (.text text)) text
  | number {value : Value} (number : IsOf [.number] value) :
      VersionRead (some value) value.literal

inductive LanguageRead : Option Value → String → Prop
  | absent : LanguageRead none "general"
  | empty : LanguageRead (some (.text "")) "general"
  | named {language : String} (named : language ≠ "") :
      LanguageRead (some (.text language)) language

structure RuleRead (value : Value) (rule : Rule) : Prop where
  id : value.get? "id" = some (.text rule.id)
  pattern : TextRead (value.get? "pattern") rule.pattern
  category : TextRead (value.get? "category") rule.category
  weight : NumberRead (value.get? "weight") rule.weight
  frameworks : NamesRead (value.get? "frameworks") rule.frameworks
  description : TextRead (value.get? "description") rule.description

/-- The document that a value stands for, with one rule for each item, in their order. -/
structure DocumentRead (origin : String) (value : Value) (document : Document) : Prop where
  origin : document.origin = origin
  version : VersionRead (value.get? "version") document.version
  language : LanguageRead (value.get? "language") document.language
  framework : TextRead (value.get? "framework") document.framework
  parents : ∃ names, NamesRead (value.get? "extends") names ∧ document.parents = names.getD []
  rules : List.Forall₂ RuleRead (itemsOf (value.get? "rules")) document.rules

theorem textRead_of_readText {text : Option String}
    (proper : Field value name (IsOf [.text, .null]))
    (read : Rule.readText (value.get? name) = .ok text) : TextRead (value.get? name) text := by
  cases held : value.get? name with
  | none =>
      rw [held] at read
      cases read
      exact .absent
  | some field =>
      have text := proper field held
      rw [held] at read
      cases field with
      | null =>
          cases read
          exact .null
      | text field =>
          cases read
          exact .text field
      | _ => simp [IsOf, Kind.admits] at text

theorem numberRead_of_readWeight {weight : Option Float}
    (proper : Field value "weight" (IsOf [.number]))
    (read : Rule.readWeight (value.get? "weight") = .ok weight) :
    NumberRead (value.get? "weight") weight := by
  cases held : value.get? "weight" with
  | none =>
      rw [held] at read
      cases read
      exact .absent
  | some field =>
      have kind := proper field held
      rw [held] at read
      cases field with
      | float number =>
          cases read
          exact .float number
      | int number =>
          obtain ⟨double, rounded, rfl⟩ := except_map_eq_ok.mp read
          simp only [Rule.readNumber] at rounded
          split at rounded
          · cases rounded
            exact .int ‹_›
          · cases rounded
      | _ => simp [IsOf, Kind.admits] at kind

/-- Items that are all texts are the values of their texts. -/
theorem eq_map_asText {items : List Value} (texts : ∀ item ∈ items, IsOf [.text] item) :
    items = (items.map Value.asText).map .text := by
  rw [List.map_map]
  refine (List.map_id items).symm.trans (List.map_congr_left fun item member => ?_)
  have text := texts item member
  cases item <;> simp_all [IsOf, Kind.admits, Value.asText]

theorem namesRead_of_readNames {names : Option (List String)}
    (proper : Field value name (IsListOf (IsOf [.text])))
    (read : Rule.readNames (value.get? name) = .ok names) : NamesRead (value.get? name) names := by
  cases held : value.get? name with
  | none =>
      rw [held] at read
      cases read
      exact .absent
  | some field =>
      have texts := proper field held
      rw [held] at read
      cases field with
      | list loop items =>
          obtain ⟨found, members, read⟩ := except_bind_eq_ok.mp read
          cases members
          split at read
          · cases read
            have written := NamesRead.names loop (items.map Value.asText)
            rwa [← eq_map_asText texts] at written
          · cases read
      | _ => exact texts.elim

theorem ruleRead_of_ofValue {rule : Rule} (proper : IsRule value)
    (read : Rule.ofValue value = .ok rule) : RuleRead value rule := by
  obtain ⟨idValue, id⟩ := Option.isSome_iff_exists.mp proper.hasId
  have named := proper.id idValue id
  simp only [Rule.ofValue, id, isWritable_of_isName named] at read
  obtain ⟨pattern, patternRead, read⟩ := except_bind_eq_ok.mp read
  obtain ⟨category, categoryRead, read⟩ := except_bind_eq_ok.mp read
  obtain ⟨weight, weightRead, read⟩ := except_bind_eq_ok.mp read
  obtain ⟨frameworks, frameworksRead, read⟩ := except_bind_eq_ok.mp read
  obtain ⟨description, descriptionRead, read⟩ := except_bind_eq_ok.mp read
  cases read
  refine ⟨?_, ?_, ?_, ?_, ?_, ?_⟩
  · cases idValue with
    | text name => exact id
    | _ => exact named.elim
  · exact textRead_of_readText
      (fun field held => isOf_text_or_null (proper.pattern field held)) patternRead
  · exact textRead_of_readText
      (fun field held => isOf_text_or_null (proper.category field held)) categoryRead
  · exact numberRead_of_readWeight proper.weight weightRead
  · exact namesRead_of_readNames proper.frameworks frameworksRead
  · exact textRead_of_readText proper.description descriptionRead

theorem rulesRead_of_mapM {items : List Value} {rules : List Rule}
    (proper : ∀ item ∈ items, IsRule item)
    (read : (items.mapM fun item => (Rule.ofValue item).mapError Failure.badField) = .ok rules) :
    List.Forall₂ RuleRead items rules := by
  induction items generalizing rules with
  | nil =>
      cases read
      exact .nil
  | cons item rest ih =>
      obtain ⟨own, others⟩ := List.forall_mem_cons.mp proper
      rw [List.mapM_cons] at read
      obtain ⟨rule, ruleRead, read⟩ := except_bind_eq_ok.mp read
      obtain ⟨following, followingRead, read⟩ := except_bind_eq_ok.mp read
      cases read
      refine .cons (ruleRead_of_ofValue own ?_) (ih others followingRead)
      cases made : Rule.ofValue item with
      | error error => simp [made, Except.mapError] at ruleRead
      | ok found =>
          rw [made] at ruleRead
          cases ruleRead
          rfl

theorem textRead_textOf (proper : Field value name (IsOf [.text, .null])) :
    TextRead (value.get? name) (textOf (value.get? name)) := by
  cases held : value.get? name with
  | none => exact .absent
  | some field =>
      have text := proper field held
      cases field with
      | null => exact .null
      | text field => exact .text field
      | _ => simp [IsOf, Kind.admits] at text

theorem versionRead_of_versionOf {version : String}
    (proper : Field value "version" (IsOf [.text, .number]))
    (read : versionOf (value.get? "version") = .ok version) :
    VersionRead (value.get? "version") version := by
  cases held : value.get? "version" with
  | none =>
      rw [held] at read
      cases read
      exact .absent
  | some field =>
      have kind := proper field held
      rw [held] at read
      cases field with
      | text text =>
          cases read
          exact .text text
      | float number =>
          cases read
          exact .number rfl
      | int number =>
          simp only [versionOf] at read
          split at read
          · cases read
            exact .number rfl
          · cases read
      | _ => simp [IsOf, Kind.admits] at kind

theorem languageRead (proper : Field value "language" (IsOf [.text])) :
    LanguageRead (value.get? "language") (match textOf (value.get? "language") with
      | none | some "" => "general"
      | some language => language) := by
  cases held : value.get? "language" with
  | none => exact .absent
  | some field =>
      have text := proper field held
      cases field with
      | text language =>
          by_cases unnamed : language = ""
          · subst unnamed
            exact .empty
          · simpa [textOf, unnamed] using LanguageRead.named unnamed
      | _ => simp [IsOf, Kind.admits] at text

theorem parentsRead (proper : Field value "extends" (IsListOf (IsOf [.text]))) :
    ∃ names, NamesRead (value.get? "extends") names ∧
      (itemsOf (value.get? "extends")).filterMap (fun item => textOf (some item)) =
        names.getD [] := by
  cases held : value.get? "extends" with
  | none => exact ⟨none, .absent, rfl⟩
  | some field =>
      have texts := proper field held
      cases field with
      | list loop items =>
          have written := NamesRead.names loop (items.map Value.asText)
          rw [← eq_map_asText texts] at written
          refine ⟨_, written, ?_⟩
          rw [itemsOf, Option.getD_some]
          conv_lhs => rw [eq_map_asText texts]
          simp [List.filterMap_map, textOf, Function.comp_def]
      | _ => exact texts.elim

/-- A document made of a mapping of the right form is the one that the mapping stands for. -/
theorem documentRead_of_ofFields (conforms : Conforms value)
    (made : ofFields origin value = .ok document) : DocumentRead origin value document := by
  obtain ⟨version, versionRead, made⟩ := except_bind_eq_ok.mp made
  obtain ⟨rules, rulesRead, made⟩ := except_bind_eq_ok.mp made
  cases made
  exact ⟨rfl, versionRead_of_versionOf conforms.version versionRead,
    languageRead conforms.language, textRead_textOf conforms.framework,
    parentsRead conforms.parents, rulesRead_of_mapM (itemsOf_rules conforms.rules) rulesRead⟩

theorem ofValue_of_map (origin : String) (mapping : IsOf [.map] value) :
    Document.ofValue origin value =
      (do firstTold (faults value); ofFields origin value) := by
  cases value with
  | map loop entries =>
      rw [← check_eq_firstTold]
      rfl
  | _ => simp [IsOf, Kind.admits] at mapping

theorem ofValue_accepted (origin : String) (inRange : value.InRange)
    (proper : value = .null ∨ IsOf [.map] value ∧ Conforms value) :
    ∃ document, Document.ofValue origin value = .ok document ∧
      DocumentRead origin value document := by
  rcases proper with rfl | ⟨mapping, conforms⟩
  · exact ⟨{ origin }, rfl, ⟨rfl, .absent, .absent, .absent, ⟨none, .absent, rfl⟩, .nil⟩⟩
  · have faultless := (faults_eq_nil_iff value).mpr conforms
    rw [ofValue_of_map origin mapping, faultless]
    rcases ofFields_cases origin conforms with ⟨⟨document, made, -⟩, -⟩ | ⟨-, overflows⟩
    · exact ⟨document, made, documentRead_of_ofFields conforms made⟩
    · exact absurd overflows (not_overflows inRange)

theorem ofValue_departing (origin : String) (inRange : value.InRange)
    (mapping : IsOf [.map] value) (departs : ¬ Conforms value) :
    ∃ steps fault, (Departures.ofDocument value).First steps fault ∧
      Document.ofValue origin value =
        .error (.invalid (.illFormed fault (steps.map Step.text))) := by
  rw [ofValue_of_map origin mapping]
  cases found : faults value with
  | nil => exact absurd ((faults_eq_nil_iff value).mp found) departs
  | cons placed others =>
      obtain ⟨fault, place⟩ := placed
      have heads := Departures.heads_ofDocument value
      rw [found] at heads
      obtain ⟨steps, first, rfl⟩ := heads.first
      refine ⟨steps, fault, first, ?_⟩
      cases fault with
      | wrongKind part expected =>
          have writable := Value.InRange.isWritable part
            (Departures.inRange_ofDocument inRange steps part expected first.departs)
          simp only [firstTold, told, wrongKind, writable, if_true]
          rfl
      | _ => rfl

theorem ofValue_refused (origin : String) (other : value ≠ .null) (unmapped : ¬ IsOf [.map] value) :
    Document.ofValue origin value = .error (.invalid .notMapping) := by
  cases value with
  | null => exact absurd rfl other
  | map loop entries => exact absurd rfl unmapped
  | _ => rfl

end Document

namespace Loader

open Document

/-- A text that stands for a value without integers beyond the range of doubles is a document if
and only if the value is null or a mapping of the right form. The document has what the value
holds; for any other mapping, the error tells the first departure and the place of it. -/
theorem parseDocument_accepts_form (text origin : String) (value : Value)
    (read : Yaml.read text = .ok value) (inRange : value.InRange) :
    let parsed := parseDocument text origin
    ((∃ document, parsed = .ok document) ↔
        value = .null ∨ IsOf [.map] value ∧ Conforms value) ∧
      (∀ document, parsed = .ok document → DocumentRead origin value document) ∧
      (IsOf [.map] value → ¬ Conforms value → ∃ steps fault,
        (Departures.ofDocument value).First steps fault ∧
        parsed = .error (.reported ⟨origin, .invalidDocument
          (fault.message ++ " at " ++ ".".intercalate (steps.map Step.text))⟩)) ∧
      (value ≠ .null → ¬ IsOf [.map] value →
        parsed = .error (.reported ⟨origin, .invalidDocument "must be a YAML mapping"⟩)) := by
  intro parsed
  have reading : Document.read text origin = Document.ofValue origin value := by
    simp only [Document.read, read]
  have accepted (proper : value = .null ∨ IsOf [.map] value ∧ Conforms value) :
      ∃ document, parsed = .ok document ∧ DocumentRead origin value document := by
    obtain ⟨document, made, stands⟩ := ofValue_accepted origin inRange proper
    exact ⟨document, by simp only [parsed, parseDocument, reading, made], stands⟩
  have told (mapping : IsOf [.map] value) (departs : ¬ Conforms value) :
      ∃ steps fault, (Departures.ofDocument value).First steps fault ∧
        parsed = .error (.reported ⟨origin, .invalidDocument
          (fault.message ++ " at " ++ ".".intercalate (steps.map Step.text))⟩) := by
    obtain ⟨steps, fault, first, failed⟩ := ofValue_departing origin inRange mapping departs
    have inside : (steps.map Step.text).isEmpty = false := by
      simpa using Departures.ofDocument_inside first.departs
    refine ⟨steps, fault, first, ?_⟩
    simp only [parsed, parseDocument, reading, failed, Problem.detail, inside,
      Bool.false_eq_true, if_false]
  have refused (other : value ≠ .null) (unmapped : ¬ IsOf [.map] value) :
      parsed = .error (.reported ⟨origin, .invalidDocument "must be a YAML mapping"⟩) := by
    have failed := ofValue_refused origin other unmapped
    simp only [parsed, parseDocument, reading, failed]
    rfl
  have proper (document : Document) (made : parsed = .ok document) :
      value = .null ∨ IsOf [.map] value ∧ Conforms value := by
    by_contra improper
    obtain ⟨other, departs⟩ := not_or.mp improper
    by_cases mapping : IsOf [.map] value
    · obtain ⟨steps, fault, -, failed⟩ := told mapping fun conforms => departs ⟨mapping, conforms⟩
      cases failed.symm.trans made
    · cases (refused other mapping).symm.trans made
  refine ⟨⟨fun returned => ?_, fun form => ?_⟩, fun document made => ?_, told, refused⟩
  · obtain ⟨document, made⟩ := returned
    exact proper document made
  · obtain ⟨document, made, -⟩ := accepted form
    exact ⟨document, made⟩
  · obtain ⟨read, same, stands⟩ := accepted (proper document made)
    cases same.symm.trans made
    exact stands

def faultyText : String :=
  "version: two\nrules:\n- id: a\n  weight: 2.5\n- pattern: b\n  weight: heavy\n- id: ''\n"

/-- The second of three rules has no id, and a text for its weight. The third has an empty id. -/
def faultyEntries : List (String × Yaml.Tree) :=
  [("version", .text "two"), ("rules", .list
    [.map [("id", .text "a"), ("weight", .number 2.5)],
      .map [("pattern", .text "b"), ("weight", .text "heavy")],
      .map [("id", .text "")]])]

theorem second_rule_told :
    let value := (Yaml.Tree.map faultyEntries).toValue
    Yaml.read faultyText = .ok value ∧ value.InRange ∧ ∃ steps fault,
      (Departures.ofDocument value).First steps fault ∧ steps.map Step.text = ["rules", "1"] ∧
      parseDocument faultyText "doc.yml" = .error (.reported ⟨"doc.yml", .invalidDocument
        (fault.message ++ " at " ++ ".".intercalate (steps.map Step.text))⟩) := by
  intro value
  have read : Yaml.read faultyText = .ok value := Yaml.read_of_isValue (by decide +kernel)
  have inRange : value.InRange := by
    intro number inside
    simp [value, faultyEntries, Yaml.Tree.toValue, Yaml.Tree.entryValues] at inside
  have mapping : IsOf [.map] value := rfl
  have found : ∃ rest, faults value = (.missing "id", ["rules", "1"]) :: rest := ⟨_, rfl⟩
  obtain ⟨rest, found⟩ := found
  have departs : ¬ Conforms value := by
    rw [← faults_eq_nil_iff, found]
    exact List.cons_ne_nil _ rest
  obtain ⟨-, -, told, -⟩ := parseDocument_accepts_form faultyText "doc.yml" value read inRange
  obtain ⟨steps, fault, first, failed⟩ := told mapping departs
  have heads := Departures.heads_ofDocument value
  rw [found] at heads
  obtain ⟨place, least, path⟩ := heads.first
  refine ⟨read, inRange, steps, fault, first, ?_, failed⟩
  rw [first.place_unique least]
  exact path.symm

end Loader

end Rulebook
