import Footprint.LineTable
import Footprint.Proofs.Sorting

/-! A line table holds, for each address, the last row that was emitted there. -/

namespace Footprint.LineTable

open LineProgram

/-- The row at an address. -/
def at? (table : LineTable) (address : UInt64) : Option Row :=
  table.rows.find? (·.address = address)

/-- Rows whose addresses ascend, so that no two are equal. -/
def Ascending (rows : List Row) : Prop :=
  rows.Pairwise fun first second => first.address < second.address

/-- The last rows of runs are rows. -/
theorem mem_of_mem_lastOfRuns {rows : List Row} {row : Row} (member : row ∈ lastOfRuns rows) :
    row ∈ rows := by
  -- Each round drops the first row or keeps it.
  fun_induction lastOfRuns rows with
  | case1 first second rest same ih => exact List.mem_cons_of_mem _ (ih member)
  | case2 first second rest differ ih =>
    rcases List.mem_cons.mp member with here | later
    · exact here ▸ List.mem_cons_self
    · exact List.mem_cons_of_mem _ (ih later)
  | case3 rows => exact member

/-- In sorted rows, the first one is least. -/
theorem address_le_of_mem {first row : Row} {rest : List Row}
    (sorted : (first :: rest).Pairwise fun first second => first.address ≤ second.address)
    (member : row ∈ first :: rest) : first.address ≤ row.address := by
  rcases List.mem_cons.mp member with here | behind
  · exact here ▸ UInt64.le_refl _
  · exact (List.pairwise_cons.mp sorted).1 row behind

/-- In sorted rows, the last rows of runs ascend. -/
theorem ascending_lastOfRuns {rows : List Row}
    (sorted : rows.Pairwise fun first second => first.address ≤ second.address) :
    Ascending (lastOfRuns rows) := by
  -- A row is kept where the next one stands at another address.
  fun_induction lastOfRuns rows with
  | case1 first second rest same ih => exact ih sorted.tail
  | case2 first second rest differ ih =>
    obtain ⟨least, later⟩ := List.pairwise_cons.mp sorted
    refine List.pairwise_cons.mpr ⟨?_, ih later⟩
    intro row member
    -- A row of another run is above the run that ends here.
    have above := address_le_of_mem later (mem_of_mem_lastOfRuns member)
    have next := least second List.mem_cons_self
    exact UInt64.lt_of_lt_of_le (UInt64.lt_of_le_of_ne next differ) above
  | case3 rows short =>
    -- No rows and a single one are left as they are.
    cases rows with
    | nil => exact List.Pairwise.nil
    | cons first rest =>
      cases rest with
      | nil => exact List.pairwise_singleton _ _
      | cons second rest => exact (short first second rest rfl).elim

/-- In sorted rows, the last row of a run is the last one at its address. -/
theorem find?_lastOfRuns {rows : List Row}
    (sorted : rows.Pairwise fun first second => first.address ≤ second.address)
    (address : UInt64) :
    (lastOfRuns rows).find? (·.address = address) =
      (rows.filter (·.address = address)).getLast? := by
  -- The rows at one address stand side by side, and are one run.
  fun_induction lastOfRuns rows with
  | case1 first second rest same ih =>
    rw [ih sorted.tail]
    by_cases here : first.address = address
    · -- The next row stands at the same address and is later.
      have next : second.address = address := same ▸ here
      simp [here, next, List.getLast?_cons_cons]
    · simp [here]
  | case2 first second rest differ ih =>
    obtain ⟨least, later⟩ := List.pairwise_cons.mp sorted
    by_cases here : first.address = address
    · -- All later rows stand above this address.
      have none : (second :: rest).filter (·.address = address) = [] := by
        rw [List.filter_eq_nil_iff]
        intro row member found
        have below := UInt64.lt_of_le_of_ne (least second List.mem_cons_self) differ
        have above := address_le_of_mem later member
        have found : row.address = address := by simpa using found
        rw [found, ← here] at above
        exact UInt64.lt_irrefl _ (UInt64.lt_of_lt_of_le below above)
      rw [List.filter_cons_of_pos (by simpa using here), none]
      simp [here]
    · rw [List.filter_cons_of_neg (by simpa using here), ← ih later]
      simp [here]
  | case3 rows short =>
    cases rows with
    | nil => rfl
    | cons first rest =>
      cases rest with
      | nil => by_cases here : first.address = address <;> simp [here]
      | cons second rest => exact (short first second rest rfl).elim

/-- Rows are sorted by their addresses. -/
private theorem pairwise_mergeSort (history : List Row) :
    (history.mergeSort fun first second => first.address ≤ second.address).Pairwise
      fun first second => first.address ≤ second.address := by
  -- The sort compares by a test, which holds where the addresses compare.
  have sorted : (history.mergeSort fun first second => first.address ≤ second.address).Pairwise
      fun first second => decide (first.address ≤ second.address) = true :=
    List.pairwise_mergeSort (by simpa using fun _ _ _ => UInt64.le_trans)
      (by simpa using fun _ _ => UInt64.le_total _ _) history
  simpa using sorted

/-- The rows of a table ascend. -/
theorem ascending_ofHistory (history : List Row) : Ascending (ofHistory history).rows :=
  ascending_lastOfRuns (pairwise_mergeSort history)

/-- A table holds the last row that was emitted at an address. -/
theorem at?_ofHistory (history : List Row) (address : UInt64) :
    (ofHistory history).at? address = (history.filter (·.address = address)).getLast? := by
  rw [at?, ofHistory, find?_lastOfRuns (pairwise_mergeSort history)]
  -- It is left to show that sorting keeps the rows at the address as they are.
  congr 1
  -- Rows with one address are tied, and the sort keeps their order.
  apply filter_mergeSort
  · simpa using fun _ _ _ => UInt64.le_trans
  · simpa using fun _ _ => UInt64.le_total _ _
  · intro first second here there
    simp only [decide_eq_true_eq] at here there ⊢
    exact UInt64.le_of_eq (here.trans there.symm)

/-- Rows emitted later hide those that were emitted at their address before. -/
theorem at?_ofHistory_append (first second : List Row) (address : UInt64) :
    (ofHistory (first ++ second)).at? address =
      ((ofHistory second).at? address).or ((ofHistory first).at? address) := by
  -- The last row of both is the last of the later ones, if there is one.
  simp only [at?_ofHistory, List.filter_append, List.getLast?_append]

/-- In ascending rows, the one that is looked up is the one with no other row between it and the
address. -/
theorem lookup?_ascending {table : LineTable} (ascending : Ascending table.rows) {row : Row}
    {address : UInt64} (member : row ∈ table.rows) (below : row.address ≤ address)
    (nearest : ∀ other ∈ table.rows, other.address ≤ address → other.address ≤ row.address) :
    table.lookup? address = some row := by
  -- The rows in front of it stand at lower addresses, those behind it at higher ones.
  obtain ⟨front, behind, split⟩ := List.append_of_mem member
  rw [split] at nearest
  rw [Ascending, split, List.pairwise_append] at ascending
  obtain ⟨-, later, across⟩ := ascending
  have kept : ∀ other ∈ front, decide (other.address ≤ address) = true := by
    intro other inFront
    have lower := across other inFront row List.mem_cons_self
    exact decide_eq_true (UInt64.le_trans (UInt64.le_of_lt lower) below)
  have dropped : behind.takeWhile (·.address ≤ address) = [] := by
    cases behind with
    | nil => rfl
    | cons next rest =>
      refine List.takeWhile_cons_of_neg ?_
      intro reached
      have higher := (List.pairwise_cons.mp later).1 next List.mem_cons_self
      have near := nearest next (by simp) (of_decide_eq_true reached)
      exact UInt64.lt_irrefl _ (UInt64.lt_of_lt_of_le higher near)
  rw [lookup?, split, List.takeWhile_append_of_pos kept, List.takeWhile_cons,
    if_pos (decide_eq_true below), dropped, List.getLast?_concat]

/-- The last row that was emitted at its address is looked up where no row was emitted between the
two. -/
theorem lookup?_ofHistory {history : List Row} {row : Row} {address : UInt64}
    (last : (history.filter (·.address = row.address)).getLast? = some row)
    (below : row.address ≤ address)
    (nearest : ∀ other ∈ history, other.address ≤ address → other.address ≤ row.address) :
    (ofHistory history).lookup? address = some row := by
  rw [← at?_ofHistory, at?] at last
  refine lookup?_ascending (ascending_ofHistory history) (List.mem_of_find?_eq_some last) below ?_
  -- The rows of the table were all emitted.
  intro other member
  exact nearest other (List.mem_mergeSort.mp (mem_of_mem_lastOfRuns member))

end Footprint.LineTable
