import Footprint.Proofs.LineTable.Lookup
import Footprint.Proofs.LineTable.Watched

/-! What is reported of a section accounts for each of its units and for each row of its table. -/

namespace Footprint

namespace LineProgram

/-- The units that are visited from one place of a section to another, each where the one before it
ends. -/
inductive Visited (data : Bytes) : Nat → List LineUnit → Nat → Prop where
  | nothing (place : Nat) : Visited data place [] place
  | unit {offset length last : Nat} {format : Format} {body : Cursor} {units : List LineUnit}
      (told : unitLength ⟨data, offset⟩ = .ok (format, length) body)
      (usable : 0 < length) (inside : body.position + length ≤ data.size)
      (others : Visited data (body.position + length) units last) :
      Visited data offset
        (⟨offset, decodeUnit format
          ⟨data.slice 0 (body.position + length), body.position⟩⟩ :: units) last

/-- What is reported at the place from which on no unit is visited. -/
inductive Halted (data : Bytes) (place : Nat) : List Event → Prop where
  | finished (ended : place = data.size) : Halted data place []
  /-- The length of another unit is zero, or leaves the section. -/
  | unusable {length : Nat} {format : Format} {body : Cursor} (more : place < data.size)
      (told : unitLength ⟨data, place⟩ = .ok (format, length) body)
      (bad : length = 0 ∨ data.size < body.position + length) :
      Halted data place [.unusableUnit place]
  /-- The bytes left are too few for the length of another unit. -/
  | trailing {fault : Truncated} {after : Cursor} (more : place < data.size)
      (untold : unitLength ⟨data, place⟩ = .error fault after) :
      Halted data place [.trailingBytes place fault]

/-- What is reported of a unit. -/
inductive Reported : LineUnit → List Event → Prop where
  | complete (offset : Nat) (header : Header) (rows : Array Row) :
      Reported ⟨offset, .decoded ⟨header, rows, none⟩⟩ [.lineProgram offset header rows.size]
  | cut (offset : Nat) (header : Header) (rows : Array Row) (fault : Truncated) :
      Reported ⟨offset, .decoded ⟨header, rows, some fault⟩⟩
        [.lineProgram offset header rows.size, .truncatedUnit offset fault]
  | headless (offset : Nat) (fault : Truncated) :
      Reported ⟨offset, .headless fault⟩ [.truncatedUnit offset fault]
  | skipped (offset : Nat) (reason : SkipReason) :
      Reported ⟨offset, .skipped reason⟩ [.skippedUnit offset reason]

/-- Whether a report tells of a line program and of nothing else. -/
def isProgramAlone : List Event → Bool
  | [.lineProgram ..] => true
  | _ => false

/-- The number of rows that an event says a unit emitted. -/
def rowsTold : Event → Nat
  | .lineProgram _ _ rows => rows
  | _ => 0

/-- A unit is reported in one of four ways. -/
theorem reported_events (unit : LineUnit) : Reported unit unit.events := by
  obtain ⟨offset, outcome⟩ := unit
  cases outcome with
  | decoded unit =>
    obtain ⟨header, rows, fault?⟩ := unit
    cases fault? with
    | none => exact .complete offset header rows
    | some fault => exact .cut offset header rows fault
  | skipped reason => exact .skipped offset reason
  | headless fault => exact .headless offset fault

/-- A unit is read to its end exactly if its report tells of nothing but its program. -/
theorem Reported.isComplete {unit : LineUnit} {report : List Event}
    (reported : Reported unit report) : unit.isComplete = isProgramAlone report := by
  cases reported <;> rfl

/-- The rows that are told of a unit are those that it emits. -/
theorem Reported.rows {unit : LineUnit} {report : List Event} (reported : Reported unit report) :
    (report.map rowsTold).sum = unit.outcome.rows.toList.length := by
  cases reported <;> simp [rowsTold, Outcome.rows]

/-- The search for units visits those that it finds, up to where it halts. -/
theorem visited_unitsFrom (data : Bytes) {offset : Nat} (start : offset ≤ data.size) :
    ∃ last, Visited data offset (unitsFrom data offset).1 last ∧
      Halted data last ((unitsFrom data offset).2.map Stop.event).toList := by
  -- Each round ends where the next one starts, and the last one finds no unit.
  fun_induction unitsFrom data offset with
  | case1 offset past => exact ⟨offset, .nothing offset, .finished (Nat.le_antisymm start past)⟩
  | case2 offset more fault after untold =>
    exact ⟨offset, .nothing offset, .trailing (Nat.not_le.mp more) untold⟩
  | case3 offset more format length body told usable stop unit units halt? found ih =>
    obtain ⟨last, visited, halted⟩ := ih usable.2
    rw [found] at visited halted
    exact ⟨last, .unit told usable.1 usable.2 visited, halted⟩
  | case4 offset more format length body told unusable =>
    refine ⟨offset, .nothing offset, .unusable (Nat.not_le.mp more) told ?_⟩
    omega

/-- Nothing is reported of a halt exactly where the section ends. -/
theorem Halted.eq_nil_iff {data : Bytes} {place : Nat} {halt : List Event}
    (halted : Halted data place halt) : halt = [] ↔ place = data.size := by
  cases halted with
  | finished ended => simp [ended]
  | unusable more => simp [Nat.ne_of_lt more]
  | trailing more => simp [Nat.ne_of_lt more]

/-- Units are visited at ascending offsets. -/
theorem Visited.ascends {data : Bytes} {offset last : Nat} {units : List LineUnit}
    (visited : Visited data offset units last) :
    (units.map (·.offset)).Pairwise (· < ·) ∧ ∀ unit ∈ units, offset ≤ unit.offset := by
  induction visited with
  | nothing => simp
  | @unit offset length last format body units told usable inside others ih =>
    obtain ⟨ascends, above⟩ := ih
    -- The other units lie behind the end of this one, and that is behind its start.
    have behind : ∀ other ∈ units, offset < other.offset := fun other member =>
      Nat.lt_of_lt_of_le (LineTable.offset_lt_stop told usable) (above other member)
    refine ⟨List.pairwise_cons.mpr ⟨List.forall_mem_map.mpr behind, ascends⟩, ?_⟩
    exact List.forall_mem_cons.mpr ⟨Nat.le_refl _, fun other member => (behind other member).le⟩

end LineProgram

namespace LineTable

open LineProgram

/-- A table has at most as many rows as were emitted. -/
theorem size_ofHistory_le (history : List Row) : (ofHistory history).size ≤ history.length := by
  have fewer := (List.dedup_sublist (history.map (·.address))).length_le
  rwa [List.length_map, ← size_ofHistory] at fewer

/-- A table has as many rows as were emitted exactly if these stand at different addresses. -/
theorem size_ofHistory_eq_iff (history : List Row) :
    (ofHistory history).size = history.length ↔ (history.map (·.address)).Nodup := by
  have addresses : (history.map (·.address)).length = history.length := List.length_map _
  rw [size_ofHistory, ← addresses, ← List.dedup_eq_self]
  exact ⟨(List.dedup_sublist _).eq_of_length, congrArg List.length⟩

/-- The rows told of units are as many as they emit. -/
theorem sum_rowsTold (units : List LineUnit) :
    ((units.flatMap LineUnit.events).map rowsTold).sum = (history units).length := by
  induction units with
  | nil => rfl
  | cons unit units ih =>
    rw [List.flatMap_cons, List.map_append, List.sum_append, (reported_events unit).rows, ih,
      history, history, List.flatMap_cons, List.length_append]

/--
The units of a section are visited one behind the other from its start on, and reported in this order,
each in one of four ways and with its own offset. Behind them stands why no further unit is visited,
unless the last one ends with the section, and at the end a count of the units of which nothing but a
program is reported, of all other units, and of the rows of the table.

These rows are no more than are told of the units, and as many exactly if no two rows that were
emitted share an address.
-/
theorem parse_accounts (data : Bytes) :
    ∃ (units : List LineUnit) (reports : List (List Event)) (last : Nat) (halt : List Event),
      let table := (parse data).1
      let told := (reports.flatten.map rowsTold).sum
      Visited data 0 units last ∧ (units.map (·.offset)).Pairwise (· < ·) ∧
      List.Forall₂ Reported units reports ∧ Halted data last halt ∧
      (halt = [] ↔ last = data.size) ∧
      (parse data).2 = reports.flatten ++ halt ++
        [.decodedLines (reports.countP isProgramAlone) (reports.countP (!isProgramAlone ·))
          table.size] ∧
      emitted data = units.flatMap (·.outcome.rows.toList) ∧
      table.size ≤ told ∧ (table.size = told ↔ ((emitted data).map (·.address)).Nodup) := by
  obtain ⟨last, visited, halted⟩ := visited_unitsFrom data (Nat.zero_le _)
  let units := (unitsFrom data 0).1
  have reported : List.Forall₂ Reported units (units.map LineUnit.events) :=
    List.forall₂_map_right_iff.mpr (List.forall₂_same.mpr fun unit _ => reported_events unit)
  -- The counts of the units are those of their reports.
  have alone : units.countP LineUnit.isComplete =
      (units.map LineUnit.events).countP isProgramAlone := by
    rw [List.countP_map]
    exact List.countP_congr fun unit _ => by simp [(reported_events unit).isComplete]
  have others : units.length - units.countP LineUnit.isComplete =
      (units.map LineUnit.events).countP (!isProgramAlone ·) := by
    have all := (units.map LineUnit.events).length_eq_countP_add_countP isProgramAlone
    simp only [List.length_map, Bool.not_eq_true, Bool.decide_eq_false] at all
    omega
  have told : (((units.map LineUnit.events).flatten).map rowsTold).sum = (emitted data).length := by
    rw [← List.flatMap_def, sum_rowsTold, emitted]
  refine ⟨units, units.map LineUnit.events, last, _, visited, visited.ascends.1, reported, halted,
    halted.eq_nil_iff, ?_, rfl, ?_, ?_⟩
  · rw [← List.flatMap_def, ← alone, ← others]
    rfl
  · rw [told, parse_fst]
    exact size_ofHistory_le _
  · rw [told, parse_fst]
    exact size_ofHistory_eq_iff _

end LineTable

end Footprint
