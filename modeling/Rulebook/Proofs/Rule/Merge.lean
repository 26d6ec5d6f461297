import Mathlib.Data.List.Induction
import Mathlib.Data.List.Nodup
import Rulebook.Rule.Merge

/-!
What merging comes to, field by field. A merged list is read through `held`, the rule that stands
under an id: placing a rule changes what stands under its own id alone, and keeps the ids in the
order in which they first came. From this each field of a merged rule is the one last specified
among the rules that may write it (`writers`).
-/

namespace Rulebook.Rule

/-- The fields of a rule that may be left unset. -/
inductive Field where
  | pattern
  | category
  | weight
  | frameworks
  | description
  deriving DecidableEq, Repr

namespace Field

/-- What a field holds where it is set. -/
def Content : Field → Type
  | weight => Float
  | frameworks => List String
  | _ => String

def value : (field : Field) → Rule → Option field.Content
  | pattern, rule => rule.pattern
  | category, rule => rule.category
  | weight, rule => rule.weight
  | frameworks, rule => rule.frameworks
  | description, rule => rule.description

/-- The value of the last rule that sets the field. -/
def lastSpecified (field : Field) (rules : List Rule) : Option field.Content :=
  rules.reverse.findSome? field.value

@[simp] theorem lastSpecified_nil (field : Field) : field.lastSpecified [] = none := rfl

theorem lastSpecified_append (field : Field) (rules more : List Rule) :
    field.lastSpecified (rules ++ more) =
      (field.lastSpecified more).or (field.lastSpecified rules) := by
  simp [lastSpecified, List.findSome?_append]

@[simp] theorem lastSpecified_singleton (field : Field) (rule : Rule) :
    field.lastSpecified [rule] = field.value rule := by
  simp [lastSpecified]

theorem lastSpecified_eq_none_iff (field : Field) (rules : List Rule) :
    field.lastSpecified rules = none ↔ ∀ rule ∈ rules, field.value rule = none := by
  simp [lastSpecified]

end Field

@[simp] theorem overlay_value (rule amendment : Rule) (field : Field) :
    field.value (rule.overlay amendment) = (field.value amendment).or (field.value rule) := by
  cases field <;> rfl

/-- The rule that stands under an id. -/
def held (rules : List Rule) (id : String) : Option Rule := rules.find? (·.id == id)

def ids (rules : List Rule) : List String := rules.map (·.id)

theorem ids_append (rules more : List Rule) : ids (rules ++ more) = ids rules ++ ids more :=
  List.map_append

theorem eraseDups_concat (names : List String) (name : String) :
    (names ++ [name]).eraseDups =
      if name ∈ names then names.eraseDups else names.eraseDups ++ [name] := by
  by_cases known : name ∈ names <;>
    simp [List.eraseDups_append, List.eraseDups_cons, List.removeAll, known]

/-- Ids in the order in which they first came are distinct. -/
theorem eraseDups_nodup (names : List String) : names.eraseDups.Nodup := by
  induction names using List.reverseRecOn with
  | nil => simp
  | append_singleton names name ih =>
      rw [eraseDups_concat]
      split
      · exact ih
      · rename_i fresh
        refine List.nodup_append.mpr ⟨ih, List.nodup_singleton name, fun other member _ isNew => ?_⟩
        rintro rfl
        exact fresh (List.mem_singleton.mp isNew ▸ List.mem_eraseDups.mp member)

section

variable (combine : Rule → Rule → Rule) (keepsId : ∀ old new, (combine old new).id = new.id)
include keepsId

theorem ids_place (rule : Rule) (rules : List Rule) :
    ids (place combine rule rules) =
      if rule.id ∈ ids rules then ids rules else ids rules ++ [rule.id] := by
  induction rules with
  | nil => simp [ids, place]
  | cons first rest ih =>
      by_cases found : first.id = rule.id
      · simp [ids, place, found, keepsId]
      · simp only [ids] at ih
        have different : rule.id ≠ first.id := Ne.symm found
        by_cases known : rule.id ∈ rest.map (·.id) <;>
          simp [ids, place, found, different, known, ih]

theorem ids_foldl_place (more : List Rule) {rules : List Rule} {seen : List String}
    (sofar : ids rules = seen.eraseDups) :
    ids (more.foldl (fun rules rule => place combine rule rules) rules) =
      (seen ++ ids more).eraseDups := by
  induction more generalizing rules seen with
  | nil => simpa [ids] using sofar
  | cons rule rest ih =>
      have next : ids (place combine rule rules) = (seen ++ [rule.id]).eraseDups := by
        rw [ids_place combine keepsId, sofar, eraseDups_concat]
        simp only [List.mem_eraseDups]
      simpa [ids] using ih next

theorem held_place (rule : Rule) (rules : List Rule) (id : String) :
    held (place combine rule rules) id =
      if id = rule.id then some ((held rules id).elim rule fun old => combine old rule)
      else held rules id := by
  induction rules with
  | nil =>
    by_cases same : id = rule.id
    · simp [held, place, same]
    · simp [held, place, same, Ne.symm same]
  | cons first rest ih =>
      simp only [held] at ih
      by_cases found : first.id = rule.id
      · by_cases same : id = rule.id
        · simp [held, place, found, same, keepsId]
        · simp [held, place, found, same, keepsId, Ne.symm same]
      · by_cases here : first.id = id
        · have other : id ≠ rule.id := fun same => found (here.trans same)
          simp [held, place, here, other]
        · simp [held, place, found, here, ih]

/-- What stands under an id is decided by the rules with that id alone. -/
theorem held_foldl_place (more rules : List Rule) (id : String) :
    held (more.foldl (fun rules rule => place combine rule rules) rules) id =
      (more.filter (·.id = id)).foldl
        (fun standing rule => some (standing.elim rule fun old => combine old rule))
        (held rules id) := by
  induction more generalizing rules with
  | nil => rfl
  | cons rule rest ih =>
      rw [List.foldl_cons, ih, held_place combine keepsId]
      by_cases own : rule.id = id
      · simp [own]
      · simp [own, Ne.symm own]

end

/-- The base rules replace one another, so that the last one stands. -/
theorem held_seeded (base : List Rule) (id : String) :
    held (base.foldl (fun rules rule => place (fun _ new => new) rule rules) []) id =
      (base.filter (·.id = id)).getLast? := by
  rw [held_foldl_place (fun _ new => new) (fun _ _ => rfl)]
  induction base.filter (·.id = id) using List.reverseRecOn with
  | nil => rfl
  | append_singleton rules rule ih =>
      rw [List.foldl_append, List.getLast?_concat]
      cases List.foldl _ _ rules <;> rfl

/-- The rules that may write the fields of the merged rule with an id, in order: the last base rule
with that id, and all others of the two tiers above. -/
def writers (base project runtime : List Rule) (id : String) : List Rule :=
  (base.filter (·.id = id)).getLast?.toList ++ (project ++ runtime).filter (·.id = id)

/-- Overlaying rules makes each field the one last specified. -/
theorem value_foldl_overlay (field : Field) (rules : List Rule) (standing : Option Rule) :
    ((rules.foldl (fun standing rule => some (standing.elim rule fun old => overlay old rule))
      standing).bind field.value) = field.lastSpecified (standing.toList ++ rules) := by
  induction rules using List.reverseRecOn with
  | nil => cases standing <;> simp
  | append_singleton rules rule ih =>
      rw [← List.append_assoc, Field.lastSpecified_append, ← ih, List.foldl_append]
      cases List.foldl _ standing rules <;> simp

theorem held_merge_value (base project runtime : List Rule) (id : String) (field : Field) :
    (held (merge base project runtime) id).bind field.value =
      field.lastSpecified (writers base project runtime id) := by
  rw [merge, held_foldl_place overlay (fun _ _ => rfl), held_seeded]
  exact value_foldl_overlay field _ _

theorem ids_merge (base project runtime : List Rule) :
    ids (merge base project runtime) = (ids (base ++ project ++ runtime)).eraseDups := by
  have empty : ids [] = [].eraseDups := rfl
  have seeded := ids_foldl_place (fun _ new => new) (fun _ _ => rfl) base empty
  have merged := ids_foldl_place overlay (fun _ _ => rfl) (project ++ runtime) seeded
  simpa [merge, ids] using merged

theorem held_of_mem {rules : List Rule} (distinct : (ids rules).Nodup) {rule : Rule}
    (member : rule ∈ rules) : held rules rule.id = some rule := by
  induction rules with
  | nil => cases member
  | cons first rest ih =>
      obtain ⟨fresh, restDistinct⟩ := List.nodup_cons.mp distinct
      rcases List.mem_cons.mp member with rfl | later
      · simp [held]
      · have different : first.id ≠ rule.id := fun same =>
          fresh (List.mem_map.mpr ⟨rule, later, same.symm⟩)
        simpa [held, different] using ih restDistinct later

/-- A merged list has each id of the tiers once, in the order in which the ids first come, and each
field of its rules is the one last specified by the rules that may write it: the last base rule
with that id, and then those of the project and of the runtime in order. -/
theorem merge_eq_lastSpecified (base project runtime : List Rule) :
    let merged := merge base project runtime
    ids merged = (ids (base ++ project ++ runtime)).eraseDups ∧ (ids merged).Nodup ∧
    (∀ id, id ∈ ids merged ↔ id ∈ ids (base ++ project ++ runtime)) ∧
    ∀ rule ∈ merged, ∀ field : Field,
      let own := (base.filter (·.id = rule.id)).getLast?.toList ++
        project.filter (·.id = rule.id) ++ runtime.filter (·.id = rule.id)
      field.value rule = own.reverse.findSome? field.value ∧
      (field.value rule = none ↔ ∀ writer ∈ own, field.value writer = none) := by
  intro merged
  have order := ids_merge base project runtime
  have distinct : (ids merged).Nodup := order ▸ eraseDups_nodup _
  refine ⟨order, distinct, fun id => by rw [order, List.mem_eraseDups], ?_⟩
  intro rule member field own
  have written := held_merge_value base project runtime rule.id field
  rw [held_of_mem distinct member, Option.bind_some, writers, List.filter_append,
    ← List.append_assoc] at written
  exact ⟨written, written ▸ field.lastSpecified_eq_none_iff own⟩

end Rulebook.Rule
