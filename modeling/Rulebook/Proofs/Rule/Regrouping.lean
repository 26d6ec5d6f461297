import Rulebook.Proofs.Rule.Export

namespace Rulebook.Rule

/-- Tiers are merged alike if their ids first come in the same order, and the rules that may write
an id specify the same last. -/
theorem merge_congr {base project runtime base' project' runtime' : List Rule}
    (order : (ids (base ++ project ++ runtime)).eraseDups =
      (ids (base' ++ project' ++ runtime')).eraseDups)
    (fields : ∀ id (field : Field), field.lastSpecified (writers base project runtime id) =
      field.lastSpecified (writers base' project' runtime' id)) :
    merge base project runtime = merge base' project' runtime' := by
  refine eq_of_held ?_ (ids_merge_nodup base project runtime) fun id _ field => ?_
  · rw [ids_merge, ids_merge, order]
  · rw [held_merge_value, held_merge_value, fields]

variable (base project runtime : List Rule)

theorem lastSpecified_writers (id : String) (field : Field) :
    field.lastSpecified (writers base project runtime id) =
      (field.lastSpecified (runtime.filter (·.id = id))).or
        ((field.lastSpecified (project.filter (·.id = id))).or
          (field.lastSpecified (base.filter (·.id = id)).getLast?.toList)) := by
  rw [writers, List.filter_append, ← List.append_assoc, Field.lastSpecified_append,
    Field.lastSpecified_append]

/-- Of merged rules as a base, the one with an id is the last with it. -/
theorem lastSpecified_merged_base (id : String) (field : Field) :
    field.lastSpecified ((merge base project runtime).filter (·.id = id)).getLast?.toList =
      field.lastSpecified (writers base project runtime id) := by
  have single : ((merge base project runtime).filter (·.id = id)).getLast?.toList =
      (merge base project runtime).filter (·.id = id) := by
    rw [filter_id (ids_merge_nodup base project runtime)]
    cases held (merge base project runtime) id <;> rfl
  rw [single, lastSpecified_merged]

theorem merge_lower_first :
    merge (merge base project []) [] runtime = merge base project runtime := by
  refine merge_congr ?_ fun id field => ?_
  · have merged : ids (merge base project []) = (ids (base ++ project)).eraseDups := by
      rw [ids_merge, List.append_nil]
    calc (ids (merge base project [] ++ [] ++ runtime)).eraseDups
        = ((ids (base ++ project)).eraseDups ++ ids runtime).eraseDups := by
          rw [← merged, List.append_nil, ids_append]
      _ = (ids (base ++ project ++ runtime)).eraseDups := by
          rw [eraseDups_eraseDups_append, ← ids_append]
  · simp only [lastSpecified_writers, lastSpecified_merged_base, List.filter_nil,
      Field.lastSpecified_nil, Option.none_or]

theorem merge_upper_first :
    merge base (merge [] project runtime) [] = merge base project runtime := by
  refine merge_congr ?_ fun id field => ?_
  · have merged : ids (merge [] project runtime) = (ids (project ++ runtime)).eraseDups := by
      rw [ids_merge, List.nil_append]
    calc (ids (base ++ merge [] project runtime ++ [])).eraseDups
        = (ids base ++ (ids (project ++ runtime)).eraseDups).eraseDups := by
          rw [← merged, List.append_nil, ids_append]
      _ = (ids (base ++ project ++ runtime)).eraseDups := by
          rw [eraseDups_append_eraseDups, ← ids_append, List.append_assoc]
  · simp only [lastSpecified_writers, lastSpecified_merged, List.filter_nil, List.getLast?_nil,
      Option.toList_none, Field.lastSpecified_nil, Option.none_or, Option.or_none, Option.or_assoc]

theorem merge_upper_again :
    merge (merge base project runtime) project runtime = merge base project runtime := by
  refine merge_congr ?_ fun id field => ?_
  · have known : ∀ name ∈ ids (project ++ runtime), name ∈ ids (base ++ project ++ runtime) := by
      intro name member
      rw [List.append_assoc, ids_append]
      exact List.mem_append_right _ member
    calc (ids (merge base project runtime ++ project ++ runtime)).eraseDups
        = ((ids (base ++ project ++ runtime)).eraseDups ++ ids (project ++ runtime)).eraseDups := by
          rw [← ids_merge base project runtime, ← ids_append, List.append_assoc]
      _ = (ids (base ++ project ++ runtime)).eraseDups := by
          rw [eraseDups_eraseDups_append, eraseDups_append_known known]
  · -- What the upper tiers specify wins once more, and for the rest there is only the base.
    rw [lastSpecified_writers, lastSpecified_merged_base, lastSpecified_writers]
    cases field.lastSpecified (runtime.filter (·.id = id)) with
    | some value => rfl
    | none => cases field.lastSpecified (project.filter (·.id = id)) <;> rfl

/-- Merging two neighbouring tiers first gives what merging all three at once does, and so does
merging the upper tiers into the result once more: the same rules in the same order. -/
theorem merge_composes :
    merge (merge base project []) [] runtime = merge base project runtime ∧
    merge base (merge [] project runtime) [] = merge base project runtime ∧
    merge (merge base project runtime) project runtime = merge base project runtime :=
  ⟨merge_lower_first base project runtime, merge_upper_first base project runtime,
    merge_upper_again base project runtime⟩

end Rulebook.Rule
