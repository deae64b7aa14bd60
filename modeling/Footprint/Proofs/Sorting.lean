import Mathlib.Data.List.Sort

/-! Sorting keeps the order of values that the sort does not tell apart. -/

namespace Footprint

/-- Values that are tied with one another stay in their order. -/
theorem filter_mergeSort {α : Type} {before : α → α → Bool}
    (trans : ∀ first second third, before first second → before second third → before first third)
    (total : ∀ first second, before first second || before second first) {keep : α → Bool}
    (tied : ∀ first second, keep first → keep second → before first second) (values : List α) :
    (values.mergeSort before).filter keep = values.filter keep := by
  -- Tied values are a sorted part of the given ones, which a stable sort does not tear apart.
  have ordered : (values.filter keep).Pairwise (before · ·) := by
    rw [List.pairwise_iff_forall_sublist]
    intro first second part
    have firstKept := part.subset (List.mem_cons_self)
    have secondKept := part.subset (List.mem_cons_of_mem _ List.mem_cons_self)
    exact tied first second (List.mem_filter.mp firstKept).2 (List.mem_filter.mp secondKept).2
  have inside := (List.sublist_mergeSort trans total ordered List.filter_sublist).filter keep
  rw [List.filter_filter] at inside
  simp only [Bool.and_self] at inside
  -- The sort neither adds nor drops a value, so that the part is all of the tied values.
  have count := ((List.mergeSort_perm values before).filter keep).length_eq
  exact (inside.eq_of_length count.symm).symm

end Footprint
