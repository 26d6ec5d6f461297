import Rulebook.Proofs.Document.Form
import Rulebook.Proofs.Yaml.Tree

/-!
Documents as they are written. A written mapping has the fields that are set, and under the name of
each of them its value; so each field of a rule or a document is read back, whether it is set, unset
or empty, and what is written is of the right form. Only empty names do not come back: a document
without a language is one of the general language, and one with an empty framework has none.
-/

namespace Rulebook

/-- The entries of the fields that are set. -/
def entriesOf (fields : List (String × Option Yaml.Tree)) : List (String × Yaml.Tree) :=
  fields.filterMap fun field => field.2.map fun tree => (field.1, tree)

/-- A field with a name of its own is found under it. -/
theorem lookup_entriesOf {fields : List (String × Option Yaml.Tree)}
    (distinct : (fields.map Prod.fst).Nodup) (key : String) :
    (entriesOf fields).lookup key = (fields.lookup key).join := by
  induction fields with
  | nil => rfl
  | cons field rest ih =>
      obtain ⟨name, tree⟩ := field
      obtain ⟨fresh, restDistinct⟩ := List.nodup_cons.mp distinct
      have others := ih restDistinct
      simp only [entriesOf] at others
      by_cases here : key = name
      · subst here
        have absent : rest.lookup key = none := List.lookup_eq_none_iff.mpr fun field member =>
          bne_iff_ne.mpr fun same => fresh (List.mem_map.mpr ⟨field, member, same.symm⟩)
        cases tree with
        | none => simpa [entriesOf, absent] using others
        | some tree => simp [entriesOf]
      · have passed : (key == name) = false := beq_eq_false_iff_ne.mpr here
        cases tree with
        | none => simpa [entriesOf, List.lookup_cons, passed] using others
        | some tree => simpa [entriesOf, List.lookup_cons, passed] using others

namespace Rule

/-- The fields of a rule by their names. -/
def fields (rule : Rule) : List (String × Option Yaml.Tree) :=
  [("id", some (.text rule.id)),
   ("pattern", rule.pattern.map .text),
   ("category", rule.category.map .text),
   ("weight", rule.weight.map .number),
   ("frameworks", rule.frameworks.map fun names => .list (names.map .text)),
   ("description", rule.description.map .text)]

theorem toEntries_eq (rule : Rule) : rule.toEntries = entriesOf rule.fields := by
  have listed : rule.toEntries =
      (rule.fields.map fun field => field.2.map fun tree => (field.1, tree)).filterMap
        fun field => field := by
    simp only [fields, List.map_cons, List.map_nil, Option.map_map, Option.map_some]
    rfl
  rw [listed, List.filterMap_map]
  rfl

/-- The value that a rule is written as. -/
def written (rule : Rule) : Value := (Yaml.Tree.map rule.toEntries).toValue

theorem written_get? (rule : Rule) (name : String) :
    rule.written.get? name = (rule.fields.lookup name).join.map Yaml.Tree.toValue := by
  rw [written, Yaml.Tree.toValue_get?, toEntries_eq, lookup_entriesOf (by simp [fields])]

theorem readText_written (text : Option String) :
    readText ((text.map Yaml.Tree.text).map Yaml.Tree.toValue) = .ok text := by
  cases text <;> rfl

theorem readWeight_written (weight : Option Float) :
    readWeight ((weight.map Yaml.Tree.number).map Yaml.Tree.toValue) = .ok weight := by
  cases weight <;> rfl

theorem readNames_written (names : Option (List String)) :
    readNames ((names.map fun names => Yaml.Tree.list (names.map .text)).map Yaml.Tree.toValue) =
      .ok names := by
  cases names with
  | none => rfl
  | some names =>
      have writable : (names.map Value.text).all Value.isWritable := by
        simp [Value.isWritable]
      have texts : (names.map Value.text).map Value.asText = names := by
        simp [Function.comp_def, Value.asText]
      simp only [Option.map_some, Yaml.Tree.toValue_list, List.map_map, readNames, members,
        Function.comp_def, Yaml.Tree.toValue_text]
      simp only [bind, Except.bind, writable, texts, if_true]
      rfl

theorem ofValue_written (rule : Rule) : ofValue rule.written = .ok rule := by
  simp only [ofValue, written_get?, fields, List.lookup_cons, String.reduceBEq, Option.join_some,
    Option.map_some, readText_written, readWeight_written, readNames_written]
  rfl

end Rule

namespace Document

/-- A field that was written from some content is as it should be, if all that is written so is. -/
theorem field_of_map {α : Type} {value : Value} {name : String} {proper : Value → Prop}
    (content : Option α) (write : α → Yaml.Tree)
    (held : value.get? name = (content.map write).map Yaml.Tree.toValue)
    (all : ∀ content, proper (write content).toValue) : Field value name proper := by
  intro field found
  rw [held, Option.map_map] at found
  obtain ⟨content, -, rfl⟩ := Option.map_eq_some_iff.mp found
  exact all content

theorem isListOf_texts (names : List String) :
    IsListOf (IsOf [.text]) (Yaml.Tree.list (names.map .text)).toValue := by
  simp [IsListOf, IsOf, Kind.admits]

theorem isRule_written {rule : Rule} (named : rule.id ≠ "") : IsRule rule.written where
  isMap := rfl
  hasId := by simp [rule.written_get?, Rule.fields]
  id := by
    intro field held
    simp only [rule.written_get?, Rule.fields, List.lookup_cons, String.reduceBEq,
      Option.join_some, Option.map_some, Option.some.injEq] at held
    subst held
    exact named
  pattern := field_of_map rule.pattern .text (rule.written_get? _) fun _ => rfl
  category := field_of_map rule.category .text (rule.written_get? _) fun _ => rfl
  weight := field_of_map rule.weight .number (rule.written_get? _) fun _ => rfl
  frameworks := field_of_map rule.frameworks (fun names => .list (names.map .text))
    (rule.written_get? _) isListOf_texts
  description := field_of_map rule.description .text (rule.written_get? _) fun _ => rfl

/-- The fields of a document by their names. -/
def fields (document : Document) : List (String × Option Yaml.Tree) :=
  [("version", ((some document.version).filter (· ≠ "")).map .text),
   ("language", some (.text document.language)),
   ("framework", (document.framework.filter (· ≠ "")).map .text),
   ("extends", ((some document.parents).filter (· ≠ [])).map fun names =>
      .list (names.map .text)),
   ("rules", some (.list (document.rules.map fun rule => .map rule.toEntries)))]

theorem toEntries_eq (document : Document) : document.toEntries = entriesOf document.fields := by
  obtain ⟨origin, version, language, framework, parents, rules⟩ := document
  by_cases unversioned : version = "" <;> by_cases orphan : parents = [] <;>
    cases framework with
    | none => simp [toEntries, entriesOf, fields, Option.filter, unversioned, orphan]
    | some name =>
        by_cases unnamed : name = "" <;>
          simp [toEntries, entriesOf, fields, Option.filter, unversioned, orphan, unnamed]

/-- The value that a document is written as. -/
def written (document : Document) : Value := (Yaml.Tree.map document.toEntries).toValue

theorem written_get? (document : Document) (name : String) :
    document.written.get? name = (document.fields.lookup name).join.map Yaml.Tree.toValue := by
  rw [written, Yaml.Tree.toValue_get?, toEntries_eq, lookup_entriesOf (by simp [fields])]

/-- The document that one is read back as. -/
def readBack (origin : String) (document : Document) : Document :=
  { document with
    origin
    language := if document.language = "" then "general" else document.language
    framework := document.framework.filter (· ≠ "") }

theorem conforms_written {document : Document} (named : ∀ rule ∈ document.rules, rule.id ≠ "") :
    Conforms document.written where
  version := field_of_map _ Yaml.Tree.text (document.written_get? _) fun _ => rfl
  language := field_of_map (some document.language) .text (document.written_get? _) fun _ => rfl
  framework := field_of_map _ Yaml.Tree.text (document.written_get? _) fun _ => rfl
  parents := field_of_map _ (fun names : List String => .list (names.map .text))
    (document.written_get? _) isListOf_texts
  rules := by
    intro field held
    have list := (document.written_get? "rules").symm.trans held
    simp only [fields, List.lookup_cons, String.reduceBEq, Option.join_some, Option.map_some,
      Option.some.injEq, Yaml.Tree.toValue_list, List.map_map] at list
    subst list
    refine .inr fun item member => ?_
    obtain ⟨rule, listed, rfl⟩ := List.mem_map.mp member
    exact isRule_written (named rule listed)

theorem textOf_written (text : Option String) :
    textOf ((text.map Yaml.Tree.text).map Yaml.Tree.toValue) = text := by
  cases text <;> rfl

theorem versionOf_written (version : String) :
    versionOf ((((some version).filter (· ≠ "")).map Yaml.Tree.text).map Yaml.Tree.toValue) =
      .ok version := by
  by_cases blank : version = "" <;>
    simp [Option.filter, blank, versionOf, Value.isWritable, Value.asText]

theorem parents_written (parents : List String) :
    (itemsOf ((((some parents).filter (· ≠ [])).map fun names =>
        Yaml.Tree.list (names.map .text)).map Yaml.Tree.toValue)).filterMap
      (fun item => textOf (some item)) = parents := by
  by_cases orphan : parents = []
  · simp [Option.filter, orphan, itemsOf]
  · simp [Option.filter, orphan, itemsOf, textOf, List.filterMap_map, Function.comp_def]

theorem rules_written (rules : List Rule) :
    (rules.map Rule.written).mapM
        (fun item => (Rule.ofValue item).mapError Failure.badField) = .ok rules := by
  induction rules with
  | nil => rfl
  | cons rule rest ih =>
      simp only [List.map_cons, List.mapM_cons, Rule.ofValue_written, ih]
      rfl

/-- A document whose rules have names is read back from the value that it is written as. -/
theorem ofValue_written {document : Document} (named : ∀ rule ∈ document.rules, rule.id ≠ "")
    (origin : String) :
    Document.ofValue origin document.written = .ok (document.readBack origin) := by
  have proper : Document.check document.written = .ok () := by
    rw [check_eq_firstTold, (faults_eq_nil_iff _).mpr (conforms_written named)]
    rfl
  have version : versionOf (document.written.get? "version") = .ok document.version :=
    (congrArg versionOf (document.written_get? _)).trans (versionOf_written _)
  have language : textOf (document.written.get? "language") = some document.language :=
    (congrArg textOf (document.written_get? _)).trans (textOf_written (some document.language))
  have framework : textOf (document.written.get? "framework") =
      document.framework.filter (· ≠ "") :=
    (congrArg textOf (document.written_get? _)).trans (textOf_written _)
  have parents : (itemsOf (document.written.get? "extends")).filterMap
      (fun item => textOf (some item)) = document.parents := by
    rw [written_get?]
    exact parents_written document.parents
  have rules : itemsOf (document.written.get? "rules") = document.rules.map Rule.written := by
    rw [written_get?]
    simp [fields, List.lookup_cons, itemsOf, Function.comp_def, Rule.written]
  change (do Document.check document.written; ofFields origin document.written) = _
  simp only [proper, ofFields, version, language, framework, parents, rules, rules_written]
  by_cases unnamed : document.language = ""
  · simp only [unnamed, readBack, if_true]
    rfl
  · simp only [unnamed, readBack, if_false]
    rfl

/-- A document whose rules have names is read back as it was written, if reading undoes the writing
of its entries. -/
theorem read_toText_of_restores {document : Document}
    (restored : Yaml.Restores document.toEntries)
    (named : ∀ rule ∈ document.rules, rule.id ≠ "") (origin : String) :
    Document.read document.toText origin = .ok (document.readBack origin) := by
  have value : Yaml.read document.toText = .ok document.written := restored
  simp only [Document.read, value]
  exact ofValue_written named origin

/-- A document that names what it names at all is read back from its text, with another origin. -/
theorem read_toText (document : Document) (restored : Yaml.Restores document.toEntries)
    (language : document.language ≠ "") (framework : document.framework ≠ some "")
    (named : ∀ rule ∈ document.rules, rule.id ≠ "") (origin : String) :
    Document.read document.toText origin = .ok { document with origin } := by
  have kept : document.framework.filter (· ≠ "") = document.framework := by
    cases held : document.framework with
    | none => rfl
    | some name =>
        have nonempty : name ≠ "" := fun blank => framework (held.trans (congrArg some blank))
        simp [Option.filter, nonempty]
  rw [read_toText_of_restores restored named, readBack, if_neg language, kept]

end Document

-- A document whose texts look like other things, and whose rules have set, unset and empty
-- fields.

namespace Document.Sample

def document : Document where
  origin := "resolved"
  version := "1.0"
  language := "no"
  framework := some "web"
  parents := ["general"]
  rules := [
    { id := "a", category := some "c: d", weight := some 0.5 },
    { id := "12", frameworks := some [], description := some "" }]

theorem document_restored : Yaml.Restores document.toEntries :=
  Yaml.restores_of_isValue (by decide +kernel)

theorem document_read_back :
    document.language ≠ "" ∧ document.framework ≠ some "" ∧
      (∀ rule ∈ document.rules, rule.id ≠ "") ∧
      Document.read document.toText "again" = .ok { document with origin := "again" } := by
  have named : ∀ rule ∈ document.rules, rule.id ≠ "" := by simp [document]
  exact ⟨by decide, by decide, named,
    read_toText document document_restored (by decide) (by decide) named "again"⟩

end Document.Sample

end Rulebook
