import Footprint.Proofs.LineTable.Units
import Mathlib.Data.List.Dedup

/-! What a line table answers, told by the rows that were emitted: the search for an address finds
the last row that was emitted at the nearest address below. -/

namespace Footprint.LineTable

open LineProgram

section Ascending

variable {rows : List Row} {row : Row} {address : UInt64}

/-- In ascending rows, those not above an address come first. -/
theorem takeWhile_ascending (ascending : Ascending rows) (address : UInt64) :
    rows.takeWhile (·.address ≤ address) = rows.filter (·.address ≤ address) := by
  induction rows with
  | nil => rfl
  | cons first rest ih =>
    obtain ⟨lower, later⟩ := List.pairwise_cons.mp ascending
    by_cases reached : first.address ≤ address
    · simp [reached, ih later]
    · -- All rows behind a row above the address are above it, too.
      have none : rest.filter (·.address ≤ address) = [] := by
        rw [List.filter_eq_nil_iff]
        intro other member low
        have higher := UInt64.le_of_lt (lower other member)
        exact reached (UInt64.le_trans higher (of_decide_eq_true low))
      simp [reached, none]

/-- A row of ascending rows is the only one at its address. -/
theorem find?_ascending (ascending : Ascending rows) (member : row ∈ rows) :
    rows.find? (·.address = row.address) = some row := by
  induction rows with
  | nil => exact absurd member List.not_mem_nil
  | cons first rest ih =>
    obtain ⟨lower, later⟩ := List.pairwise_cons.mp ascending
    rcases List.mem_cons.mp member with rfl | behind
    · simp
    · have other : first.address ≠ row.address := UInt64.ne_of_lt (lower row behind)
      rw [List.find?_cons_of_neg (by simpa using other)]
      exact ih later behind

end Ascending

section Table

variable {table : LineTable} {row : Row} {address : UInt64}

/-- Nothing is found where all rows of the table are above the address. -/
theorem lookup?_eq_none_iff (ascending : Ascending table.rows) :
    table.lookup? address = none ↔ ∀ row ∈ table.rows, address < row.address := by
  rw [lookup?, takeWhile_ascending ascending, List.getLast?_eq_none_iff, List.filter_eq_nil_iff]
  simp only [decide_eq_true_eq, UInt64.not_le]

end Table

section History

variable {history : List Row} {row : Row} {address : UInt64}

/-- The rows of a table are those that were emitted last at their addresses. -/
theorem mem_rows_ofHistory :
    row ∈ (ofHistory history).rows ↔
      (history.filter (·.address = row.address)).getLast? = some row := by
  rw [← at?_ofHistory, at?]
  constructor
  · exact find?_ascending (ascending_ofHistory history)
  · exact List.mem_of_find?_eq_some

/-- A table has a row at each address at which one was emitted, and at no others. -/
theorem mem_addresses_ofHistory :
    address ∈ (ofHistory history).rows.map (·.address) ↔ address ∈ history.map (·.address) := by
  constructor
  · intro listed
    obtain ⟨row, member, rfl⟩ := List.mem_map.mp listed
    have emitted := List.mem_of_getLast? (mem_rows_ofHistory.mp member)
    exact List.mem_map_of_mem (List.mem_of_mem_filter emitted)
  · intro listed
    obtain ⟨row, member, rfl⟩ := List.mem_map.mp listed
    cases last : (history.filter (·.address = row.address)).getLast? with
    | none =>
      rw [List.getLast?_eq_none_iff, List.filter_eq_nil_iff] at last
      exact absurd (decide_eq_true rfl) (last row member)
    | some kept =>
      -- The last of the rows at the address is the one that the table has.
      have here : kept.address = row.address :=
        of_decide_eq_true (List.mem_filter.mp (List.mem_of_getLast? last)).2
      rw [← here] at last ⊢
      exact List.mem_map_of_mem (mem_rows_ofHistory.mpr last)

/-- A table has as many rows as there are different addresses. -/
theorem size_ofHistory : (ofHistory history).size = (history.map (·.address)).dedup.length := by
  have distinct : ((ofHistory history).rows.map (·.address)).Nodup := by
    refine List.pairwise_map.mpr ((ascending_ofHistory history).imp ?_)
    exact UInt64.ne_of_lt
  have perm : ((ofHistory history).rows.map (·.address)).Perm (history.map (·.address)).dedup := by
    rw [List.perm_ext_iff_of_nodup distinct (List.nodup_dedup _)]
    intro address
    rw [List.mem_dedup, mem_addresses_ofHistory]
  rw [← perm.length_eq, List.length_map, size]

end History

end Footprint.LineTable
