import Rulebook.Loading
import Rulebook.Proofs.Decimal.Range
import Rulebook.Proofs.Document.Form

namespace Rulebook

namespace Document

/-- A rule has a whole number for its weight that is beyond the range of doubles. -/
def TooHeavy (value : Value) : Prop :=
  ∃ weight : Int, value.get? "weight" = some (.int weight) ∧ Decimal.rangeLimit ≤ weight.natAbs

variable {value : Value} {name : String}

theorem isOf_text_or_null (text : IsOf [.text] value) : IsOf [.text, .null] value := by
  cases value <;> simp_all [IsOf, Kind.admits]

theorem isWritable_of_isOf (texts : IsOf [.text, .null] value) : value.isWritable := by
  cases value <;> simp_all [IsOf, Kind.admits, Value.isWritable]

theorem isWritable_of_isName (named : IsName value) : value.isWritable := by
  cases value <;> simp_all [IsName, Value.isWritable]

theorem readText_ok (texts : Field value name (IsOf [.text, .null])) :
    ∃ text, Rule.readText (value.get? name) = .ok text := by
  cases held : value.get? name with
  | none => exact ⟨none, rfl⟩
  | some field =>
      have text := texts field held
      cases field with
      | null => exact ⟨none, rfl⟩
      | text field => exact ⟨some field, rfl⟩
      | _ => simp [IsOf, Kind.admits] at text

theorem readNames_ok (names : Field value name (IsListOf (IsOf [.text]))) :
    ∃ read, Rule.readNames (value.get? name) = .ok read := by
  cases held : value.get? name with
  | none => exact ⟨none, rfl⟩
  | some field =>
      have texts := names field held
      cases field with
      | list loop items =>
          have writable : items.all Value.isWritable := by
            exact List.all_eq_true.mpr fun item member =>
              isWritable_of_isOf (isOf_text_or_null (texts item member))
          refine ⟨some (items.map Value.asText), ?_⟩
          simp only [Rule.readNames, Rule.members, bind, Except.bind, writable, if_true]
          rfl
      | _ => exact texts.elim

/-- A number is read as a weight unless it is beyond the range of doubles. -/
theorem readWeight_cases (numbers : Field value "weight" (IsOf [.number])) :
    (∃ weight, Rule.readWeight (value.get? "weight") = .ok weight) ∧ ¬ TooHeavy value ∨
      Rule.readWeight (value.get? "weight") = .error .numberTooLarge ∧ TooHeavy value := by
  cases held : value.get? "weight" with
  | none => exact .inl ⟨⟨none, rfl⟩, fun ⟨weight, heavy, _⟩ => by simp [held] at heavy⟩
  | some field =>
      have number := numbers field held
      cases field with
      | float weight =>
          exact .inl ⟨⟨some weight, rfl⟩, fun ⟨weight, heavy, _⟩ => by simp [held] at heavy⟩
      | int weight =>
          cases read : Decimal.ofInteger? weight with
          | none =>
              refine .inr ⟨?_, weight, held, (Decimal.ofInteger?_eq_none_iff weight).mp read⟩
              simp [Rule.readWeight, Rule.readNumber, read, Except.map]
          | some double =>
              refine .inl ⟨⟨some double, ?_⟩, ?_⟩
              · simp [Rule.readWeight, Rule.readNumber, read, Except.map]
              · rintro ⟨other, same, limit⟩
                cases held.symm.trans same
                simp [(Decimal.ofInteger?_eq_none_iff weight).mpr limit] at read
      | _ => simp [IsOf, Kind.admits] at number

theorem ofValue_cases (rule : IsRule value) :
    (∃ read, Rule.ofValue value = .ok read) ∧ ¬ TooHeavy value ∨
      Rule.ofValue value = .error .numberTooLarge ∧ TooHeavy value := by
  obtain ⟨idValue, id⟩ := Option.isSome_iff_exists.mp rule.hasId
  have writable := isWritable_of_isName (rule.id idValue id)
  obtain ⟨pattern, patternRead⟩ := readText_ok fun field held =>
    isOf_text_or_null (rule.pattern field held)
  obtain ⟨category, categoryRead⟩ := readText_ok fun field held =>
    isOf_text_or_null (rule.category field held)
  obtain ⟨description, descriptionRead⟩ := readText_ok rule.description
  obtain ⟨names, namesRead⟩ := readNames_ok rule.frameworks
  rcases readWeight_cases rule.weight with ⟨⟨weight, weightRead⟩, light⟩ | ⟨weightRead, heavy⟩
  · refine .inl ⟨⟨⟨idValue.asText, pattern, category, weight, names, description⟩, ?_⟩, light⟩
    simp only [Rule.ofValue, id, writable, patternRead, categoryRead, weightRead, namesRead,
      descriptionRead]
    rfl
  · refine .inr ⟨?_, heavy⟩
    simp only [Rule.ofValue, id, writable, patternRead, categoryRead, weightRead, namesRead,
      descriptionRead]
    rfl

/-- The version is a whole number with too many digits to be written out. -/
def TooLong (value : Value) : Prop :=
  ∃ number : Int, value.get? "version" = some (.int number) ∧
    10 ^ Decimal.digitLimit ≤ number.natAbs

theorem versionOf_cases (versions : Field value "version" (IsOf [.text, .number])) :
    (∃ version, versionOf (value.get? "version") = .ok version) ∧ ¬ TooLong value ∨
      versionOf (value.get? "version") = .error (.badField .tooManyDigits) ∧ TooLong value := by
  cases held : value.get? "version" with
  | none => exact .inl ⟨⟨"", rfl⟩, fun ⟨number, long, _⟩ => by simp [held] at long⟩
  | some field =>
      have version := versions field held
      cases field with
      | text text => exact .inl ⟨⟨text, rfl⟩, fun ⟨number, long, _⟩ => by simp [held] at long⟩
      | float number =>
          exact .inl ⟨⟨_, rfl⟩, fun ⟨number, long, _⟩ => by simp [held] at long⟩
      | int number =>
          have writable : (Value.int number).isWritable =
            decide (number.natAbs < 10 ^ Decimal.digitLimit) := by
              simp only [Value.isWritable, Nat.pow_eq]
          by_cases short : number.natAbs < 10 ^ Decimal.digitLimit
          · refine .inl ⟨⟨(Value.int number).asText, ?_⟩, ?_⟩
            · simp only [versionOf, writable, short, decide_true, if_true]
            rintro ⟨other, same, long⟩
            cases held.symm.trans same
            exact absurd short (Nat.not_lt.mpr long)
          · refine .inr ⟨?_, number, held, Nat.not_lt.mp short⟩
            simp only [versionOf, writable, short, decide_false, Bool.false_eq_true, if_false]
      | _ => simp [IsOf, Kind.admits] at version

theorem mapM_ofValue_cases {items : List Value} (rules : ∀ item ∈ items, IsRule item) :
    let read := items.mapM fun item => (Rule.ofValue item).mapError Failure.badField
    (∃ found, read = .ok found) ∧ (∀ item ∈ items, ¬ TooHeavy item) ∨
      read = .error (.badField .numberTooLarge) ∧ ∃ item ∈ items, TooHeavy item := by
  induction items with
  | nil => exact .inl ⟨⟨[], rfl⟩, by simp⟩
  | cons item rest ih =>
      obtain ⟨rule, others⟩ := List.forall_mem_cons.mp rules
      simp only [List.mapM_cons, List.mem_cons, forall_eq_or_imp, exists_eq_or_imp]
      rcases ofValue_cases rule with ⟨⟨first, firstRead⟩, light⟩ | ⟨failed, heavy⟩
      · rcases ih others with ⟨⟨following, followingRead⟩, lights⟩ | ⟨failed, heavy⟩
        · exact .inl
            ⟨⟨first :: following, by simp only [firstRead, followingRead]; rfl⟩, light, lights⟩
        · exact .inr ⟨by simp only [firstRead, failed]; rfl, .inr heavy⟩
      · exact .inr ⟨by simp only [failed]; rfl, .inl heavy⟩

/-- A number in a mapping of the right form is too large to be taken in. -/
def Overflows (value : Value) : Prop :=
  TooLong value ∨ ∃ rule ∈ itemsOf (value.get? "rules"), TooHeavy rule

theorem itemsOf_rules (rules : Field value "rules" IsRules) :
    ∀ item ∈ itemsOf (value.get? "rules"), IsRule item := by
  cases held : value.get? "rules" with
  | none => simp [itemsOf]
  | some field =>
      cases field with
      | list loop items =>
          rcases rules _ held with null | items
          · simp [IsOf, Kind.admits] at null
          · exact items
      | _ => simp [itemsOf]

theorem ofFields_cases (origin : String) (conforms : Conforms value) :
    (∃ document, ofFields origin value = .ok document ∧ document.origin = origin) ∧
        ¬ Overflows value ∨
      (∃ error, ofFields origin value = .error (.badField error)) ∧ Overflows value := by
  rcases versionOf_cases conforms.version with ⟨⟨version, versionRead⟩, short⟩ | ⟨failed, long⟩
  · rcases mapM_ofValue_cases (itemsOf_rules conforms.rules) with
      ⟨⟨rules, rulesRead⟩, light⟩ | ⟨failed, heavy⟩
    · refine .inl ⟨?_, not_or.mpr ⟨short, fun ⟨rule, member, heavy⟩ => light rule member heavy⟩⟩
      simp only [ofFields, versionRead, rulesRead]
      exact ⟨_, rfl, rfl⟩
    · refine .inr ⟨⟨.numberTooLarge, ?_⟩, .inr heavy⟩
      simp only [ofFields, versionRead, failed]
      rfl
  · refine .inr ⟨⟨.tooManyDigits, ?_⟩, .inl long⟩
    simp only [ofFields, failed]
    rfl

/-- What a mapping cannot be read for without being told as a fault of the document: a number of a
mapping of the right form is too large, or the first fault is of a part that cannot be written out,
as it contains a whole number with too many digits. -/
def Unreadable (value : Value) : Prop :=
  Kind.map.admits value ∧ match faults value with
    | [] => Overflows value
    | (.wrongKind part _, _) :: _ => part.isWritable = false
    | _ => False

theorem ofValue_ends (origin : String) (value : Value) :
    ((∃ document, Document.ofValue origin value = .ok document ∧ document.origin = origin) ∨
        ∃ problem, Document.ofValue origin value = .error (.invalid problem)) ∧
      ¬ Unreadable value ∨
    (∃ error, Document.ofValue origin value = .error (.badField error)) ∧ Unreadable value := by
  cases value with
  | null => exact .inl ⟨.inl ⟨_, rfl, rfl⟩, by simp [Unreadable, Kind.admits]⟩
  | map loop entries =>
      have read : Document.ofValue origin (.map loop entries) =
        (do firstTold (faults (.map loop entries)); ofFields origin (.map loop entries)) := by
          rw [← check_eq_firstTold]
          rfl
      rw [read]
      cases found : faults (.map loop entries) with
      | nil =>
          have conforms := (faults_eq_nil_iff _).mp found
          rcases ofFields_cases origin conforms with ⟨made, fits⟩ | ⟨failed, overflows⟩
          · exact .inl ⟨.inl made, fun unreadable =>
              fits (by simpa [Unreadable, found] using unreadable.2)⟩
          · exact .inr ⟨failed, rfl, by simpa [found] using overflows⟩
      | cons placed others =>
          obtain ⟨fault, path⟩ := placed
          cases fault with
          | wrongKind part expected =>
              by_cases writable : part.isWritable
              · refine .inl ⟨.inr ⟨.illFormed (.wrongKind part expected) path, ?_⟩, ?_⟩
                · simp only [firstTold, told, wrongKind, writable, if_true]
                  rfl
                · simp [Unreadable, found, writable]
              · refine .inr ⟨⟨.tooManyDigits, ?_⟩, rfl, by simpa [found] using writable⟩
                simp only [firstTold, told, wrongKind, writable]
                rfl
          | missing field => exact .inl ⟨.inr ⟨_, rfl⟩, by simp [Unreadable, found]⟩
          | empty => exact .inl ⟨.inr ⟨_, rfl⟩, by simp [Unreadable, found]⟩
  | _ => exact .inl ⟨.inr ⟨_, rfl⟩, by simp [Unreadable, Kind.admits]⟩

/-- A rule that weighs more than the largest double. -/
def heavyRule : Value := .map none [(.text "id", .text "a"), (.text "weight", .int (10 ^ 400))]

/-- The form of a document admits a rule that cannot be read, and with it the document. -/
theorem heavyRule_not_read :
    let document := Value.map none [(.text "rules", .list none [heavyRule])]
    Conforms document ∧ Rule.ofValue heavyRule = .error .numberTooLarge ∧
      Document.ofValue "doc.yml" document = .error (.badField .numberTooLarge) := by
  intro document
  have conforms : Conforms document := (faults_eq_nil_iff document).mp rfl
  have heavy : TooHeavy heavyRule := ⟨10 ^ 400, rfl, by decide +kernel⟩
  have rules := itemsOf_rules conforms.rules
  have read : Rule.ofValue heavyRule = .error .numberTooLarge := by
    rcases ofValue_cases (rules heavyRule (by simp [document, Value.get?, itemsOf])) with
      ⟨-, light⟩ | ⟨failed, -⟩
    · exact absurd heavy light
    · exact failed
  refine ⟨conforms, read, ?_⟩
  have checked : Document.check document = .ok () := (check_eq_firstTold document).trans rfl
  have items : itemsOf (document.get? "rules") = [heavyRule] := rfl
  have version : versionOf (document.get? "version") = .ok "" := rfl
  change (do Document.check document; ofFields "doc.yml" document) = _
  simp only [checked, ofFields, version, items, List.mapM_cons, read]
  rfl

end Document

namespace Loader

open Document

/-- Reading a document ends in the document or in an error that names its origin if and only if the
text is malformed, or stands for a value without a number that is too large for it. -/
theorem parseDocument_settles_iff (text origin : String) :
    ((∃ document, parseDocument text origin = .ok document ∧ document.origin = origin) ∨
      ∃ detail, parseDocument text origin =
        .error (.reported ⟨origin, .invalidDocument detail⟩)) ↔
    (∃ error, Yaml.read text = .error (.malformed error)) ∨
      ∃ value, Yaml.read text = .ok value ∧ ¬ Unreadable value := by
  match held : Yaml.read text with
  | .error (.malformed error) => simp [parseDocument, Document.read, held]
  | .error (.badScalar error) => simp [parseDocument, Document.read, held]
  | .error .tooDeep => simp [parseDocument, Document.read, held]
  | .ok value =>
      rcases ofValue_ends origin value with
        ⟨⟨document, made, named⟩ | ⟨problem, told⟩, readable⟩ | ⟨⟨error, failed⟩, unreadable⟩
      · simp [parseDocument, Document.read, held, made, named, readable]
      · simp [parseDocument, Document.read, held, told, readable]
      · simp [parseDocument, Document.read, held, failed, unreadable]

end Loader

end Rulebook
