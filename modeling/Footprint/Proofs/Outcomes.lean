/-! Computations that may fail, one after the other and over the values of a list. -/

namespace Footprint

variable {α β ε : Type}

/-- Two computations in a row succeed if both do, the second on the value of the first. -/
theorem ok_of_bind {first : Except ε α} {use : α → Except ε β} {result : β}
    (done : first >>= use = .ok result) : ∃ value, first = .ok value ∧ use value = .ok result := by
  cases first with
  | error fault => simp [Bind.bind, Except.bind] at done
  | ok value => exact ⟨value, rfl, done⟩

/-- A value made from that of a computation is there if the computation succeeds. -/
theorem ok_of_map {first : Except ε α} {change : α → β} {result : β}
    (done : (first >>= fun value => pure (change value)) = .ok result) :
    ∃ value, first = .ok value ∧ change value = result := by
  obtain ⟨value, succeeded, rest⟩ := ok_of_bind done
  exact ⟨value, succeeded, Except.ok.inj rest⟩

/-- Computations over a list that all succeed give the list of their values. -/
theorem eq_map_of_mapM {use : α → Except ε β} {result : α → β} {values : List α} {found : List β}
    (done : values.mapM use = .ok found)
    (each : ∀ value ∈ values, ∀ own, use value = .ok own → own = result value) :
    found = values.map result := by
  induction values generalizing found with
  | nil => exact (Except.ok.inj done).symm
  | cons value rest ih =>
    obtain ⟨first, others⟩ := List.forall_mem_cons.mp each
    rw [List.mapM_cons] at done
    obtain ⟨own, early, done⟩ := ok_of_bind done
    obtain ⟨later, late, rfl⟩ := ok_of_map done
    rw [first own early, ih late others, List.map_cons]

end Footprint
