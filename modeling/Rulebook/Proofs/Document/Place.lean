import Rulebook.Proofs.Document.Form

/-!
Where a value departs from the form of documents. A departure is a fault at the steps that lead to
its part. The places are ordered as they are looked at: fields as the form lists them, items by
their position, and a part before all that lies in it. The fault that heads the list of faults is
the departure at the first of the places (`heads_ofDocument`).
-/

namespace Rulebook.Document

inductive Step where
  | field (name : String)
  | item (index : Nat)
  deriving DecidableEq, Repr

namespace Step

def text : Step → String
  | field name => name
  | item index => toString index

/-- The fields of documents and then of rules, as the form lists them. -/
def fieldOrder : List String :=
  ["version", "language", "framework", "extends", "rules",
    "id", "pattern", "category", "weight", "frameworks", "description"]

def rank : Step → Nat
  | field name => fieldOrder.idxOf name
  | item index => index

end Step

/-- The first place is the second one, or is looked at before it. -/
inductive Precedes : List Step → List Step → Prop
  | here (steps : List Step) : Precedes [] steps
  | earlier {first second : Step} (before : first.rank < second.rank) (rest more : List Step) :
      Precedes (first :: rest) (second :: more)
  | inside (step : Step) {rest more : List Step} (precedes : Precedes rest more) :
      Precedes (step :: rest) (step :: more)

theorem Precedes.antisymm {first second : List Step} (before : Precedes first second)
    (behind : Precedes second first) : first = second := by
  induction before with
  | here steps =>
      cases behind
      rfl
  | earlier before rest more =>
      cases behind with
      | earlier after => omega
      | inside => omega
  | inside step precedes ih =>
      cases behind with
      | earlier after => omega
      | inside _ behind => rw [ih behind]

/-- The faults of a value, each with the steps to its part. -/
abbrev Departures := List Step → Fault → Prop

namespace Departures

def ofKinds (kinds : List Kind) (value : Value) : Departures := fun steps fault =>
  steps = [] ∧ fault = .wrongKind value kinds ∧ ¬ IsOf kinds value

def ofField (value : Value) (name : String) (inner : Value → Departures) : Departures :=
  fun steps fault => ∃ part rest,
    value.get? name = some part ∧ steps = .field name :: rest ∧ inner part rest fault

/-- The departures of items, the first of which is at a position. -/
def ofItemsFrom (start : Nat) (items : List Value) (inner : Value → Departures) : Departures :=
  fun steps fault => ∃ index part rest,
    items[index]? = some part ∧ steps = .item (start + index) :: rest ∧ inner part rest fault

def ofItems (value : Value) (inner : Value → Departures) : Departures :=
  match value with
  | .list _ items => ofItemsFrom 0 items inner
  | _ => fun _ _ => False

def ofNames (value : Value) : Departures := fun steps fault =>
  ofKinds [.list] value steps fault ∨ ofItems value (ofKinds [.text]) steps fault

def ofId (value : Value) : Departures := fun steps fault =>
  ofKinds [.text] value steps fault ∨ (value = .text "" ∧ steps = [] ∧ fault = .empty)

def ofRuleFields (value : Value) : Departures := fun steps fault =>
  (value.get? "id" = none ∧ steps = [] ∧ fault = .missing "id") ∨
  ofField value "id" ofId steps fault ∨
  ofField value "pattern" (ofKinds [.text]) steps fault ∨
  ofField value "category" (ofKinds [.text]) steps fault ∨
  ofField value "weight" (ofKinds [.number]) steps fault ∨
  ofField value "frameworks" ofNames steps fault ∨
  ofField value "description" (ofKinds [.text, .null]) steps fault

/-- A rule has fields to depart in only if it is a mapping. -/
def ofRule (value : Value) : Departures := fun steps fault =>
  ofKinds [.map] value steps fault ∨ (IsOf [.map] value ∧ ofRuleFields value steps fault)

def ofRules (value : Value) : Departures := fun steps fault =>
  ofKinds [.list, .null] value steps fault ∨ ofItems value ofRule steps fault

def ofDocument (value : Value) : Departures := fun steps fault =>
  ofField value "version" (ofKinds [.text, .number]) steps fault ∨
  ofField value "language" (ofKinds [.text]) steps fault ∨
  ofField value "framework" (ofKinds [.text, .null]) steps fault ∨
  ofField value "extends" ofNames steps fault ∨
  ofField value "rules" ofRules steps fault

/-- The fault is one of the departures, and none of them is at a place before it. -/
structure First (departures : Departures) (steps : List Step) (fault : Fault) : Prop where
  departs : departures steps fault
  least : ∀ other wrong, departures other wrong → Precedes steps other

/-- The faults, found on a path, are headed by the first of the departures, if there is any. -/
inductive Heads (path : List String) (departures : Departures) : List Placed → Prop
  | none (conforms : ∀ steps fault, ¬ departures steps fault) : Heads path departures []
  | some {steps : List Step} {fault : Fault} (first : departures.First steps fault)
      (others : List Placed) :
      Heads path departures ((fault, path ++ steps.map Step.text) :: others)

variable {path : List String} {value : Value} {departures others : Departures}
  {inner : Value → Departures} {found : List String → Value → List Placed}
  {steps : List Step} {fault : Fault}

theorem First.place_unique {other : List Step} {wrong : Fault}
    (first : departures.First steps fault) (second : departures.First other wrong) :
    steps = other :=
  (first.least other wrong second.departs).antisymm (second.least steps fault first.departs)

theorem First.heads (first : departures.First steps fault) (path : List String)
    (others : List Placed) :
    Heads path departures ((fault, path ++ steps.map Step.text) :: others) := .some first others

theorem Heads.first {place : List String} {rest : List Placed}
    (heads : Heads path departures ((fault, place) :: rest)) :
    ∃ steps, departures.First steps fault ∧ place = path ++ steps.map Step.text := by
  cases heads with
  | @some steps fault first => exact ⟨steps, first, rfl⟩

theorem Heads.congr {faults : List Placed} (heads : Heads path departures faults)
    (same : ∀ steps fault, departures steps fault ↔ others steps fault) :
    Heads path others faults := by
  have equal : departures = others := by
    funext steps fault
    exact propext (same steps fault)
  exact equal ▸ heads

/-- Of two kinds of departures, those of the first at no place behind those of the second, the first
ones are told first. -/
theorem Heads.append {first second : List Placed} (heads : Heads path departures first)
    (following : Heads path others second)
    (ordered : ∀ steps fault other wrong, departures steps fault → others other wrong →
      Precedes steps other) :
    Heads path (fun steps fault => departures steps fault ∨ others steps fault)
      (first ++ second) := by
  cases heads with
  | none conforms =>
      refine following.congr fun steps fault => ?_
      exact (or_iff_right (conforms steps fault)).symm
  | some least rest =>
      refine .some ⟨.inl least.departs, fun other wrong departs => ?_⟩ _
      rcases departs with departs | departs
      · exact least.least other wrong departs
      · exact ordered _ _ other wrong least.departs departs

theorem heads_ofKinds (kinds : List Kind) (path : List String) (value : Value) :
    Heads path (ofKinds kinds value) (kindFaults kinds path value) := by
  unfold kindFaults
  by_cases proper : kinds.any (·.admits value)
  · rw [if_pos proper]
    exact .none fun steps fault departs => departs.2.2 proper
  · rw [if_neg proper]
    have only : (ofKinds kinds value).First [] (.wrongKind value kinds) :=
      ⟨⟨rfl, rfl, proper⟩, fun other _ _ => .here other⟩
    simpa using only.heads path []

theorem heads_ofField (name : String)
    (heads : ∀ path part, Heads path (inner part) (found path part)) :
    Heads path (ofField value name inner) (fieldFaults value name path found) := by
  unfold fieldFaults
  cases held : value.get? name with
  | none => exact .none fun steps fault ⟨part, rest, there, _⟩ => by simp [held] at there
  | some field =>
      simp only
      generalize faulty : found (path ++ [name]) field = faults
      have known : Heads (path ++ [name]) (inner field) faults := faulty ▸ heads _ field
      cases known with
      | none conforms =>
          refine .none fun steps fault ⟨part, rest, there, _, departs⟩ => ?_
          cases held.symm.trans there
          exact conforms rest fault departs
      | @some steps fault first others =>
          have least : (ofField value name inner).First (.field name :: steps) fault := by
            refine ⟨⟨field, steps, held, rfl, first.departs⟩, ?_⟩
            rintro other wrong ⟨part, rest, there, rfl, departs⟩
            cases held.symm.trans there
            exact .inside _ (first.least rest wrong departs)
          simpa [Step.text] using least.heads path others

theorem heads_ofItemsFrom (heads : ∀ path part, Heads path (inner part) (found path part))
    (start : Nat) (items : List Value) :
    Heads path (ofItemsFrom start items inner) (itemFaultsFrom start path found items) := by
  induction items generalizing start with
  | nil => exact .none fun steps fault ⟨index, part, rest, there, _⟩ => by simp at there
  | cons item more ih =>
      generalize faulty : found (path ++ [toString start]) item = faults
      have known : Heads (path ++ [toString start]) (inner item) faults := faulty ▸ heads _ item
      simp only [itemFaultsFrom, faulty]
      cases known with
      | none conforms =>
          refine (ih (start + 1)).congr fun steps fault => ⟨?_, ?_⟩
          · rintro ⟨index, part, rest, there, rfl, departs⟩
            refine ⟨index + 1, part, rest, by simpa using there, ?_, departs⟩
            rw [Nat.add_right_comm, Nat.add_assoc]
          · rintro ⟨index, part, rest, there, rfl, departs⟩
            cases index with
            | zero =>
                cases there
                exact absurd departs (conforms rest fault)
            | succ index =>
                refine ⟨index, part, rest, by simpa using there, ?_, departs⟩
                rw [Nat.add_right_comm, Nat.add_assoc]
      | @some steps fault first others =>
          have least : (ofItemsFrom start (item :: more) inner).First (.item start :: steps)
              fault := by
            refine ⟨⟨0, item, steps, rfl, rfl, first.departs⟩, ?_⟩
            rintro other wrong ⟨index, part, rest, there, rfl, departs⟩
            cases index with
            | zero =>
                cases there
                exact .inside _ (first.least rest wrong departs)
            | succ index =>
                refine .earlier ?_ steps rest
                simp only [Step.rank]
                omega
          simpa [Step.text] using
            least.heads path (others ++ itemFaultsFrom (start + 1) path found more)

theorem heads_ofItems (heads : ∀ path part, Heads path (inner part) (found path part)) :
    Heads path (ofItems value inner) (itemFaults found path value) := by
  cases value with
  | list loop items => exact heads_ofItemsFrom heads 0 items
  | _ => exact .none fun _ _ departs => departs

/-- The faults are headed by the first of the departures, all of which are at the part itself or
begin with a step below a rank. -/
structure HeadsBelow (bound : Nat) (path : List String) (departures : Departures)
    (faults : List Placed) : Prop where
  heads : Heads path departures faults
  below : ∀ steps fault, departures steps fault → ∀ step ∈ steps.head?, step.rank < bound

variable {kinds : List Kind} {part : Value}

theorem HeadsBelow.field {bound : Nat} {faults : List Placed}
    (known : HeadsBelow bound path departures faults) (value : Value) (name : String)
    (heads : ∀ path part, Heads path (inner part) (found path part))
    (after : bound ≤ (Step.field name).rank) :
    HeadsBelow ((Step.field name).rank + 1) path
      (fun steps fault => departures steps fault ∨ ofField value name inner steps fault)
      (faults ++ fieldFaults value name path found) := by
  refine ⟨known.heads.append (heads_ofField name heads) ?_, ?_⟩
  · rintro steps fault other wrong departs ⟨part, rest, -, rfl, -⟩
    cases steps with
    | nil => exact .here _
    | cons step more =>
        have before := known.below _ _ departs step rfl
        exact .earlier (Nat.lt_of_lt_of_le before after) more rest
  · rintro steps fault (departs | ⟨part, rest, -, rfl, -⟩) step first
    · have before := known.below steps fault departs step first
      omega
    · cases first
      exact Nat.lt_succ_self _

theorem precedes_of_ofKinds (departs : ofKinds kinds part steps fault) (other : List Step) :
    Precedes steps other := by
  rw [departs.1]
  exact .here other

theorem heads_ofNames (path : List String) (value : Value) :
    Heads path (ofNames value) (nameFaults path value) :=
  (heads_ofKinds [.list] path value).append (heads_ofItems (heads_ofKinds [.text]))
    fun _ _ other _ departs _ => precedes_of_ofKinds departs other

/-- A single fault of the part itself, which it has under a condition. -/
theorem heads_ofCondition (condition : Prop) [Decidable condition] (fault : Fault)
    (path : List String) :
    HeadsBelow 0 path (fun steps wrong => condition ∧ steps = [] ∧ wrong = fault)
      (if condition then [(fault, path)] else []) := by
  refine ⟨?_, fun steps wrong departs step first => ?_⟩
  · by_cases holds : condition
    · have only : First (fun steps wrong => condition ∧ steps = [] ∧ wrong = fault) [] fault :=
        ⟨⟨holds, rfl, rfl⟩, fun other _ _ => .here other⟩
      simpa [holds] using only.heads path []
    · rw [if_neg holds]
      exact .none fun steps wrong departs => holds departs.1
  · rw [departs.2.1] at first
    cases first

theorem heads_ofId (path : List String) (value : Value) :
    Heads path (ofId value) (idFaults path value) := by
  have kinds := heads_ofKinds [.text] path value
  by_cases unnamed : value = .text ""
  · subst unnamed
    have only : (ofId (.text "")).First [] .empty :=
      ⟨.inr ⟨rfl, rfl, rfl⟩, fun other _ _ => .here other⟩
    simpa [idFaults, kindFaults, Kind.admits] using only.heads path []
  · have plain : idFaults path value = kindFaults [.text] path value := by
      cases value <;> simp [idFaults]
    rw [plain]
    refine kinds.congr fun steps fault => ?_
    simp only [ofId, unnamed, false_and, or_false]

theorem heads_ofRule (path : List String) (value : Value) :
    Heads path (ofRule value) (ruleFaults path value) := by
  unfold ruleFaults
  by_cases isMap : Kind.map.admits value
  · have mapping : IsOf [.map] value := by simpa [IsOf] using isMap
    have missing := heads_ofCondition ((value.get? "id").isNone) (.missing "id") path
    have chain := missing.field value "id" heads_ofId (Nat.zero_le _)
      |>.field value "pattern" (heads_ofKinds [.text]) (by decide)
      |>.field value "category" (heads_ofKinds [.text]) (by decide)
      |>.field value "weight" (heads_ofKinds [.number]) (by decide)
      |>.field value "frameworks" heads_ofNames (by decide)
      |>.field value "description" (heads_ofKinds [.text, .null]) (by decide)
    rw [if_pos isMap]
    refine chain.heads.congr fun steps fault => ?_
    simp only [ofRule, ofRuleFields, ofKinds, mapping, not_true_eq_false, and_false, false_or,
      true_and, or_assoc, Option.isNone_iff_eq_none]
  · have other : ¬ IsOf [.map] value := by simpa [IsOf] using isMap
    rw [if_neg isMap]
    refine (heads_ofKinds [.map] path value).congr fun steps fault => ?_
    simp only [ofRule, other, false_and, or_false]

theorem heads_ofRules (path : List String) (value : Value) :
    Heads path (ofRules value) (rulesFaults path value) :=
  (heads_ofKinds [.list, .null] path value).append (heads_ofItems heads_ofRule)
    fun _ _ other _ departs _ => precedes_of_ofKinds departs other

theorem heads_ofDocument (value : Value) : Heads [] (ofDocument value) (faults value) := by
  have nothing : HeadsBelow 0 [] (fun _ _ => False) [] :=
    ⟨.none fun _ _ departs => departs, fun _ _ departs => departs.elim⟩
  have chain := nothing.field value "version" (heads_ofKinds [.text, .number])
      (Nat.zero_le _)
    |>.field value "language" (heads_ofKinds [.text]) (by decide)
    |>.field value "framework" (heads_ofKinds [.text, .null]) (by decide)
    |>.field value "extends" heads_ofNames (by decide)
    |>.field value "rules" heads_ofRules (by decide)
  refine chain.heads.congr fun steps fault => ?_
  simp only [ofDocument, false_or, or_assoc]

end Departures

end Rulebook.Document
