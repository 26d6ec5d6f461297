import Rulebook.Proofs.Document.Acceptance
import Rulebook.Proofs.Document.Writing

namespace Rulebook

namespace Document

variable {value : Value} {origin : String} {document : Document}

/-- A document that is made of a value is the one that the value stands for, which is null or a
mapping of the right form. -/
theorem documentRead_of_ofValue (made : Document.ofValue origin value = .ok document) :
    (value = .null ∨ Conforms value) ∧ DocumentRead origin value document := by
  cases value with
  | null =>
      cases made
      exact ⟨.inl rfl, rfl, .absent, .absent, .absent, ⟨none, .absent, rfl⟩, .nil⟩
  | map loop entries =>
      have mapping : IsOf [.map] (.map loop entries) := rfl
      rw [ofValue_of_map origin mapping] at made
      obtain ⟨_, faultless, made⟩ := except_bind_eq_ok.mp made
      cases found : faults (.map loop entries) with
      | nil =>
          have conforms := (faults_eq_nil_iff _).mp found
          exact ⟨.inr conforms, documentRead_of_ofFields conforms made⟩
      | cons placed others =>
          rw [found] at faultless
          cases faultless
  | _ => cases made

/-- Nothing has an empty name but, perhaps, the framework. -/
structure IsNamed (document : Document) : Prop where
  language : document.language ≠ ""
  rules : ∀ rule ∈ document.rules, rule.id ≠ ""

theorem LanguageRead.ne_empty {field : Option Value} {language : String}
    (read : LanguageRead field language) : language ≠ "" := by
  cases read with
  | absent => decide
  | empty => decide
  | named named => exact named

theorem RuleRead.ne_empty {rule : Rule} (read : RuleRead value rule) (proper : IsRule value) :
    rule.id ≠ "" :=
  proper.id _ read.id

theorem DocumentRead.isNamed (read : DocumentRead origin value document)
    (proper : value = .null ∨ Conforms value) : document.IsNamed := by
  refine ⟨read.language.ne_empty, fun rule member => ?_⟩
  have items : ∀ item ∈ itemsOf (value.get? "rules"), IsRule item := by
    rcases proper with rfl | conforms
    · exact fun _ member => absurd member List.not_mem_nil
    · exact itemsOf_rules conforms.rules
  obtain ⟨index, isIndex, rfl⟩ := List.mem_iff_getElem.mp member
  have isItem : index < (itemsOf (value.get? "rules")).length := by
    rw [read.rules.length_eq]
    exact isIndex
  exact (read.rules.get isItem isIndex).ne_empty (items _ (List.getElem_mem isItem))

theorem isNamed_of_read {text : String} (accepted : Document.read text origin = .ok document) :
    document.IsNamed := by
  unfold Document.read at accepted
  split at accepted
  · cases accepted
  · cases accepted
  · cases accepted
  · obtain ⟨proper, read⟩ := documentRead_of_ofValue accepted
    exact read.isNamed proper

theorem toText_readBack (named : document.language ≠ "") (origin : String) :
    (document.readBack origin).toText = document.toText := by
  obtain ⟨_, version, language, framework, parents, rules⟩ := document
  rw [toText, toText, toEntries, toEntries, readBack, if_neg named]
  cases framework with
  | none => rfl
  | some name =>
      by_cases unnamed : name = ""
      · subst unnamed
        rfl
      · simp [Option.filter, unnamed]

end Document

namespace Loader

theorem parseDocument_eq_ok_iff {text origin : String} {document : Document} :
    parseDocument text origin = .ok document ↔ Document.read text origin = .ok document := by
  unfold parseDocument
  split <;> simp_all

/-- A document that is read from a text and written is read again, with nothing lost but an empty
framework, and is then written as the same text. -/
theorem resaved_once {text origin : String} {document : Document}
    (accepted : parseDocument text origin = .ok document)
    (restored : Yaml.Restores document.toEntries) (again : String) :
    ∃ parsed, parseDocument document.toText again = .ok parsed ∧
      parsed.toText = document.toText ∧
      parsed = { document with
        origin := again, framework := document.framework.filter (· ≠ "") } := by
  have named := Document.isNamed_of_read (parseDocument_eq_ok_iff.mp accepted)
  refine ⟨document.readBack again, parseDocument_eq_ok_iff.mpr ?_,
    Document.toText_readBack named.language again, ?_⟩
  · exact Document.read_toText_of_restores restored named.rules again
  · rw [Document.readBack, if_neg named.language]

-- A text with a number for its version, an empty framework, an unknown key, and a rule with a
-- weight that is no number.

def untidyText : String :=
  "version: 1.50\nframework: ''\nauthor: me\nrules:\n- \x7bframeworks: [], id: '12', weight: .nan\x7d\n"

def untidyEntries : List (String × Yaml.Tree) :=
  [("version", .number 1.5), ("framework", .text ""), ("author", .text "me"),
    ("rules", .list [.map
      [("frameworks", .list []), ("id", .text "12"), ("weight", .number Decimal.notANumber)]])]

def untidyDocument : Document where
  origin := "doc.yml"
  version := "1.5"
  framework := some ""
  rules := [{ id := "12", weight := some Decimal.notANumber, frameworks := some [] }]

theorem untidy_accepted : parseDocument untidyText "doc.yml" = .ok untidyDocument := by
  let value := (Yaml.Tree.map untidyEntries).toValue
  have read : Yaml.read untidyText = .ok value := Yaml.read_of_isValue (by decide +kernel)
  have proper : Document.check value = .ok () := rfl
  have version : Document.versionOf (value.get? "version") = .ok untidyDocument.version := by
    have written : Decimal.shortestText 1.5 = "1.5" := by decide +kernel
    exact congrArg Except.ok written
  have rules : ((Document.itemsOf (value.get? "rules")).mapM fun item =>
      (Rule.ofValue item).mapError Document.Failure.badField) = .ok untidyDocument.rules := rfl
  rw [parseDocument_eq_ok_iff, Document.read, read]
  change (do Document.check value; Document.ofFields "doc.yml" value) = _
  simp only [proper, Document.ofFields, version, rules]
  rfl

theorem untidy_restored : Yaml.Restores untidyDocument.toEntries :=
  Yaml.restores_of_isValue (by decide +kernel)

theorem untidy_resaved :
    parseDocument untidyText "doc.yml" = .ok untidyDocument ∧
      Yaml.Restores untidyDocument.toEntries ∧
      ∃ parsed, parseDocument untidyDocument.toText "again.yml" = .ok parsed ∧
        parsed.toText = untidyDocument.toText ∧
        parsed = { untidyDocument with origin := "again.yml", framework := none } :=
  ⟨untidy_accepted, untidy_restored, resaved_once untidy_accepted untidy_restored "again.yml"⟩

end Loader

end Rulebook
