import Rulebook.Proofs.Document.Writing
import Rulebook.Proofs.Rule.Merge

namespace Rulebook.Rule

variable {rules others : List Rule} {id : String}

theorem id_of_held {rule : Rule} (found : held rules id = some rule) : rule.id = id := by
  unfold held at found
  simpa using List.find?_some found

theorem held_isSome_iff : (held rules id).isSome ↔ id ∈ ids rules := by
  simp [held, ids]

theorem eq_of_fields {rule other : Rule} (id : rule.id = other.id)
    (fields : ∀ field : Field, field.value rule = field.value other) : rule = other := by
  obtain ⟨_, _, _, _, _, _⟩ := rule
  obtain ⟨_, _, _, _, _, _⟩ := other
  obtain rfl := id
  have pattern := fields .pattern
  have category := fields .category
  have weight := fields .weight
  have frameworks := fields .frameworks
  have description := fields .description
  simp only [Field.value] at pattern category weight frameworks description
  subst pattern category weight frameworks description
  rfl

/-- Rules with distinct ids are those that stand under their ids. -/
theorem filterMap_held (distinct : (ids rules).Nodup) :
    (ids rules).filterMap (held rules) = rules := by
  rw [ids, List.filterMap_map]
  calc rules.filterMap (held rules ∘ Rule.id)
      = rules.filterMap some := List.filterMap_congr fun rule member => held_of_mem distinct member
    _ = rules := List.filterMap_some

/-- Lists with the same distinct ids are the same if each field is the same under each id. -/
theorem eq_of_held (order : ids rules = ids others) (distinct : (ids rules).Nodup)
    (fields : ∀ id, id ∈ ids rules → ∀ field : Field,
      (held rules id).bind field.value = (held others id).bind field.value) : rules = others := by
  have otherDistinct : (ids others).Nodup := order ▸ distinct
  rw [← filterMap_held distinct, ← filterMap_held otherDistinct, ← order]
  refine List.filterMap_congr fun id member => ?_
  obtain ⟨rule, found⟩ := Option.isSome_iff_exists.mp (held_isSome_iff.mpr member)
  obtain ⟨other, there⟩ := Option.isSome_iff_exists.mp (held_isSome_iff.mpr (order ▸ member))
  have same := fields id member
  rw [found, there] at same ⊢
  exact congrArg some (eq_of_fields ((id_of_held found).trans (id_of_held there).symm) same)

theorem eraseDups_of_nodup {names : List String} (distinct : names.Nodup) :
    names.eraseDups = names := by
  induction names with
  | nil => rfl
  | cons name rest ih =>
      obtain ⟨fresh, restDistinct⟩ := List.nodup_cons.mp distinct
      have others : rest.filter (fun other => !other == name) = rest :=
        List.filter_eq_self.mpr fun other member => by
          simpa using fun same : other = name => fresh (same ▸ member)
      rw [List.eraseDups_cons, others, ih restDistinct]

-- Of names that come more than once only the first counts, so repeated ones can be dropped in
-- any part of a list before they are dropped in the whole.

theorem eraseDups_append_eraseDups (known more : List String) :
    (known ++ more.eraseDups).eraseDups = (known ++ more).eraseDups := by
  induction more using List.reverseRecOn with
  | nil => rfl
  | append_singleton more name ih =>
      by_cases repeated : name ∈ more
      · rw [eraseDups_concat, if_pos repeated, ih, ← List.append_assoc, eraseDups_concat,
          if_pos (List.mem_append_right known repeated)]
      · rw [eraseDups_concat, if_neg repeated, ← List.append_assoc, ← List.append_assoc,
          eraseDups_concat, eraseDups_concat, ih]
        simp only [List.mem_append, List.mem_eraseDups]

theorem eraseDups_eraseDups_append (known more : List String) :
    (known.eraseDups ++ more).eraseDups = (known ++ more).eraseDups := by
  induction more using List.reverseRecOn with
  | nil => rw [List.append_nil, List.append_nil, eraseDups_of_nodup (eraseDups_nodup known)]
  | append_singleton more name ih =>
      rw [← List.append_assoc, ← List.append_assoc, eraseDups_concat, eraseDups_concat, ih]
      simp only [List.mem_append, List.mem_eraseDups]

theorem eraseDups_append_known {known more : List String} (all : ∀ name ∈ more, name ∈ known) :
    (known ++ more).eraseDups = known.eraseDups := by
  induction more using List.reverseRecOn with
  | nil => rw [List.append_nil]
  | append_singleton more name ih =>
      obtain ⟨others, last⟩ := List.forall_mem_append.mp all
      rw [← List.append_assoc, eraseDups_concat,
        if_pos (List.mem_append_left more (last name (List.mem_singleton_self name))), ih others]

/-- Among rules with distinct ids only the one that stands under an id has it. -/
theorem filter_id (distinct : (ids rules).Nodup) (id : String) :
    rules.filter (·.id = id) = (held rules id).toList := by
  induction rules with
  | nil => rfl
  | cons first rest ih =>
      obtain ⟨fresh, restDistinct⟩ := List.nodup_cons.mp distinct
      have others := ih restDistinct
      by_cases own : first.id = id
      · have absent : held rest id = none :=
          Option.not_isSome_iff_eq_none.mp (held_isSome_iff.not.mpr (own ▸ fresh))
        rw [List.filter_cons_of_pos (by simpa using own), others, absent]
        simp [held, own]
      · rw [List.filter_cons_of_neg (by simpa using own), others]
        simp [held, own]

section Tiers

variable (base project runtime : List Rule)

theorem ids_merge_nodup : (ids (merge base project runtime)).Nodup := by
  rw [ids_merge]
  exact eraseDups_nodup _

/-- Of one id, merged rules specify what the rules that may write it do. -/
theorem lastSpecified_merged (id : String) (field : Field) :
    field.lastSpecified ((merge base project runtime).filter (·.id = id)) =
      field.lastSpecified (writers base project runtime id) := by
  rw [← held_merge_value, filter_id (ids_merge_nodup base project runtime)]
  cases held (merge base project runtime) id <;> simp

theorem ids_merge_merged :
    ids (merge base (merge base project runtime) []) = ids (merge base project runtime) := by
  have split : ids (base ++ project ++ runtime) = ids base ++ ids (project ++ runtime) := by
    rw [List.append_assoc, ids_append]
  calc ids (merge base (merge base project runtime) [])
      = (ids base ++ (ids base ++ ids (project ++ runtime)).eraseDups).eraseDups := by
        rw [← split, ← ids_merge, ids_merge base _ [], List.append_nil, ids_append]
    _ = ((ids base ++ ids base).eraseDups ++ ids (project ++ runtime)).eraseDups := by
        rw [eraseDups_append_eraseDups, eraseDups_eraseDups_append, List.append_assoc]
    _ = (ids base ++ ids (project ++ runtime)).eraseDups := by
        rw [eraseDups_append_known fun _ member => member, eraseDups_eraseDups_append]
    _ = ids (merge base project runtime) := by rw [ids_merge, split]

/-- Overlaying the base with all merged rules gives them once more. -/
theorem merge_merged :
    merge base (merge base project runtime) [] = merge base project runtime := by
  refine eq_of_held (ids_merge_merged _ _ _) (ids_merge_nodup _ _ _) fun id _ field => ?_
  rw [held_merge_value, held_merge_value, writers, List.append_nil, Field.lastSpecified_append,
    lastSpecified_merged, writers, Field.lastSpecified_append, Option.or_assoc, Option.or_self]

/-- Merged rules that are written to a document, read back and taken for the rules of a project
amend the base to what was merged. -/
theorem merge_exported {document : Document}
    (exported : document.rules = merge base project runtime)
    (named : ∀ rule ∈ base ++ project ++ runtime, rule.id ≠ "")
    (restored : Yaml.Restores document.toEntries) (origin : String) :
    ∃ parsed, Document.read document.toText origin = .ok parsed ∧
      merge base parsed.rules [] = merge base project runtime := by
  have mergedNamed : ∀ rule ∈ document.rules, rule.id ≠ "" := by
    intro rule member
    rw [exported] at member
    have known : rule.id ∈ ids (base ++ project ++ runtime) := by
      rw [← List.mem_eraseDups, ← ids_merge]
      exact List.mem_map_of_mem member
    obtain ⟨writer, there, same⟩ := List.mem_map.mp known
    exact same ▸ named writer there
  refine ⟨document.readBack origin,
    Document.read_toText_of_restores restored mergedNamed origin, ?_⟩
  calc merge base (document.readBack origin).rules []
      = merge base (merge base project runtime) [] := by rw [← exported]; rfl
    _ = merge base project runtime := merge_merged base project runtime

end Tiers

-- Tiers with a repeated base rule and rules of which some fields are given.

namespace Sample

open Document.Sample (document document_restored)

def base : List Rule :=
  [{ id := "a", pattern := some "x" }, { id := "a", category := some "c: d" }]

def project : List Rule :=
  [{ id := "12", frameworks := some [] }, { id := "a", weight := some 0.5 }]

def runtime : List Rule := [{ id := "12", description := some "" }]

theorem exported_again :
    document.rules = merge base project runtime ∧
      ∃ parsed, Document.read document.toText "custom.yml" = .ok parsed ∧
        merge base parsed.rules [] = merge base project runtime :=
  ⟨rfl, merge_exported base project runtime rfl
    (by simp [base, project, runtime]) document_restored "custom.yml"⟩

end Sample

end Rulebook.Rule
