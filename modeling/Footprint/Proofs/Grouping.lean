import Mathlib.Data.List.Perm.Basic

/-! Values grouped by the labels that they have. -/

namespace Footprint

variable {α β : Type} [DecidableEq β] {label? : α → Option β} {labels : List β} {values : List α}

/-- A group is not empty if some value has its label. -/
theorem group_ne_nil_iff {label : β} :
    values.filter (label? · = some label) ≠ [] ↔ ∃ value ∈ values, label? value = some label := by
  rw [ne_eq, List.filter_eq_nil_iff]
  simp

/-- The groups of distinct labels, taken together, are the values that have a label, if no label is
left out. -/
theorem perm_labelled (distinct : labels.Nodup)
    (covers : ∀ value ∈ values, ∀ label, label? value = some label → label ∈ labels) :
    (labels.flatMap fun label => values.filter (label? · = some label)).Perm
      (values.filter fun value => (label? value).isSome) := by
  -- The values of the first label are set aside, and the other labels group what is left.
  induction labels generalizing values with
  | nil =>
    have bare : values.filter (fun value => (label? value).isSome) = [] := by
      rw [List.filter_eq_nil_iff]
      intro value member labelled
      obtain ⟨label, found⟩ := Option.isSome_iff_exists.mp labelled
      exact List.not_mem_nil (covers value member label found)
    rw [bare, List.flatMap_nil]
  | cons first labels ih =>
    obtain ⟨new, distinct⟩ := List.nodup_cons.mp distinct
    let others := values.filter (label? · ≠ some first)
    have covered : ∀ value ∈ others, ∀ label, label? value = some label → label ∈ labels := by
      intro value member label found
      obtain ⟨inside, other⟩ := List.mem_filter.mp member
      rcases List.mem_cons.mp (covers value inside label found) with rfl | later
      · exact absurd found (of_decide_eq_true other)
      · exact later
    -- The groups of the other labels lose no value.
    have groups : (labels.flatMap fun label => values.filter (label? · = some label)) =
        labels.flatMap fun label => others.filter (label? · = some label) := by
      refine List.flatMap_congr fun label member => ?_
      have apart : label ≠ first := ne_of_mem_of_not_mem member new
      rw [List.filter_filter]
      refine List.filter_congr fun value _ => ?_
      by_cases here : label? value = some label <;> simp [here, apart]
    have labelled : values.filter (fun value => (label? value).isSome) |>.Perm
        (values.filter (label? · = some first) ++
          others.filter fun value => (label? value).isSome) := by
      have split := List.filter_append_perm (label? · = some first)
        (values.filter fun value => (label? value).isSome)
      refine split.symm.trans (List.Perm.of_eq (congrArg₂ _ ?_ ?_))
      · rw [List.filter_filter]
        refine List.filter_congr fun value _ => ?_
        by_cases here : label? value = some first <;> simp [here]
      · rw [List.filter_filter, List.filter_filter]
        refine List.filter_congr fun value _ => ?_
        simp [Bool.and_comm]
    rw [List.flatMap_cons, groups]
    exact ((ih distinct covered).append_left _).trans labelled.symm

/-- The groups of distinct labels and the values without a label are all values, if no label is left
out. -/
theorem perm_grouped (distinct : labels.Nodup)
    (covers : ∀ value ∈ values, ∀ label, label? value = some label → label ∈ labels) :
    (labels.flatMap (fun label => values.filter (label? · = some label)) ++
      values.filter (label? · = none)).Perm values := by
  have split := List.filter_append_perm (fun value => (label? value).isSome) values
  have bare : values.filter (fun value => !(label? value).isSome) =
      values.filter (label? · = none) := by
    refine List.filter_congr fun value _ => ?_
    cases label? value <;> rfl
  rw [bare] at split
  exact ((perm_labelled distinct covers).append_right _).trans split

end Footprint
