import Footprint.LineTable
import Footprint.Proofs.LineProgram.Watched
import Mathlib.Data.List.Perm.Subperm

/-! Line tables parsed on a machine that watches its slices, its arithmetic and its loops, and is
never stopped by one of these. -/

namespace Footprint.LineTable

open LineProgram LineProgram.Watched WatchedRead

namespace Watched

/-- The length of the unit at an offset. -/
def unitLength (offset : Nat) : WatchedRead (Format × Nat) := do
  seek offset
  let short ← word32
  if short = 0xFFFFFFFF then
    let long ← word64
    return (.wide, long.toNat)
  else return (.narrow, short.toNat)

/-- The units from an offset on, for at most some rounds. -/
def unitsFrom {ε : Type} (data : Bytes) : Nat → Nat → Run ε (List LineUnit × Option Stop)
  | 0, _ => Run.trap .rounds
  | rounds + 1, offset => do
    if data.size ≤ offset then return ([], none)
    match ← Run.attempt (unitLength offset (.ofBytes data)) with
    | .error fault => return ([], some (.trailing offset fault))
    | .ok ((format, length), body) =>
      match (Run.fitting? (body.position + length)).filter (· ≤ data.size) with
      | none => return ([], some (.unusable offset))
      | some stop =>
        if 0 < length then
          let unit ← Run.slice data 0 stop
          let outcome ← LineProgram.Watched.decodeUnit format ⟨unit, body.position⟩
          let next ← Run.onward offset stop data.size
          let (units, halt?) ← unitsFrom data rounds next
          return (⟨offset, outcome⟩ :: units, halt?)
        else return ([], some (.unusable offset))

/-- The table of a section, for which no fault is known, and what is reported of its units. -/
def parse (data : Bytes) : Run Empty (LineTable × List Event) := do
  let (units, stop?) ← unitsFrom data (data.size + 1) 0
  let table := ofHistory (history units)
  let complete ← Run.counted (units.countP LineUnit.isComplete)
  let others ← Run.counted (units.countP fun unit => !unit.isComplete)
  let summary := .decodedLines complete others table.size
  return (table, units.flatMap LineUnit.events ++ (stop?.map Stop.event).toList ++ [summary])

end Watched

/-- The offset at which units are no longer looked for. -/
def stopOffset : Stop → Nat
  | .unusable offset => offset
  | .trailing offset _ => offset

/-- The offsets at which a unit is looked for, from one on. -/
def visitedFrom (data : Bytes) (offset : Nat) : List Nat :=
  (unitsFrom data offset).1.map (·.offset) ++
    ((unitsFrom data offset).2.map stopOffset).toList

/-- The offsets at which a unit is looked for. -/
def visited (data : Bytes) : List Nat := visitedFrom data 0

/-- A unit ends behind the offset where it starts. -/
theorem offset_lt_stop {data : Bytes} {offset length : Nat} {format : Format} {body : Cursor}
    (done : LineProgram.unitLength ⟨data, offset⟩ = .ok (format, length) body)
    (usable : 0 < length) : offset < body.position + length := by
  have forward : offset ≤ body.position := (keeps_unitLength _ _ _ done).forward
  omega

/-- Units are looked for at ascending offsets, all of them inside the bytes. -/
theorem visitedFrom_ascends (data : Bytes) (offset : Nat) :
    (visitedFrom data offset).Pairwise (· < ·) ∧
      ∀ place ∈ visitedFrom data offset, offset ≤ place ∧ place < data.size := by
  unfold visitedFrom
  fun_induction unitsFrom data offset with
  | case1 => simp
  | case2 offset more fault after done => simpa [stopOffset] using more
  | case3 offset more format length body done usable stop unit units halt? told ih =>
    -- What is visited behind the unit lies no earlier than its end.
    have behind : offset < stop := offset_lt_stop done usable.1
    rw [told] at ih
    obtain ⟨ascends, inside⟩ := ih
    refine ⟨List.pairwise_cons.mpr ⟨fun place later => ?_, ascends⟩, fun place found => ?_⟩
    · exact behind.trans_le (inside place later).1
    · rcases List.mem_cons.mp found with rfl | later
      · exact ⟨Nat.le_refl _, Nat.not_le.mp more⟩
      · obtain ⟨above, below⟩ := inside place later
        exact ⟨behind.le.trans above, below⟩
  | case4 offset more => simpa [stopOffset] using more

/-- The length of a unit is read without a trap. -/
theorem follows_unitLength (offset : Nat) :
    (Watched.unitLength offset).Follows (Read.seek offset >>= fun _ => LineProgram.unitLength) := by
  refine (follows_seek offset).bind fun _ => follows_word32.bind fun short => ?_
  split
  · exact follows_word64.map fun long => (Format.wide, long.toNat)
  · exact follows_pure _

/-- Units are looked for without a trap, in no more rounds than there are bytes and one more. -/
theorem unitsFrom_eq_pure {ε : Type} {data : Bytes} (bounded : data.size < greatestOffset)
    (rounds : Nat) {offset : Nat} (inside : offset ≤ data.size)
    (enough : data.size - offset < rounds) :
    Watched.unitsFrom data rounds offset = (pure (unitsFrom data offset) : Run ε _) := by
  have fits : data.size < UInt64.size := Nat.lt_of_lt_of_le bounded (Nat.sub_le _ _)
  -- The rounds left are always more than the bytes left, of which each unit takes one.
  induction rounds generalizing offset with
  | zero => contradiction
  | succ rounds ih =>
    rw [Watched.unitsFrom, unitsFrom_eq]
    by_cases past : data.size ≤ offset
    · rw [if_pos past, if_pos past]
    · have start : (Cursor.ofBytes data).Sound := ⟨Nat.zero_le _, fits⟩
      have sought : Read.seek offset (.ofBytes data) = .ok () ⟨data, offset⟩ := if_pos inside
      -- The length is read at the offset that was sought.
      have placed : (Read.seek offset >>= fun _ => LineProgram.unitLength) (.ofBytes data) =
        LineProgram.unitLength ⟨data, offset⟩ := Read.bind_of_ok sought
      rw [if_neg past, if_neg past]
      cases done : LineProgram.unitLength ⟨data, offset⟩ with
      | error fault after =>
        rw [(follows_unitLength offset).attempt_of_error start (placed.trans done), pure_bind]
      | ok told body =>
        obtain ⟨format, length⟩ := told
        rw [(follows_unitLength offset).attempt_of_ok start (placed.trans done), pure_bind]
        dsimp only
        rw [Run.filter_fitting? fits]
        by_cases room : body.position + length ≤ data.size
        · rw [if_pos room]
          dsimp only
          by_cases usable : 0 < length
          · have whole : (data.slice 0 (body.position + length)).size = body.position + length := by
              rw [Bytes.slice, Array.size_extract]
              omega
            have decoded : LineProgram.Watched.decodeUnit format
                ⟨data.slice 0 (body.position + length), body.position⟩ = (pure _ : Run ε _) :=
              decodeUnit_eq_pure format (whole.trans_lt (room.trans_lt bounded))
                (whole.symm ▸ Nat.le_add_right _ _)
            have forward := offset_lt_stop done usable
            have rest := ih room (by omega)
            rw [if_pos usable, if_pos ⟨usable, room⟩, Run.slice_eq_pure (Nat.zero_le _) room,
              pure_bind, decoded, pure_bind, Run.onward_eq_pure forward room, pure_bind, rest,
              pure_bind]
          · rw [if_neg usable, if_neg fun both => usable both.1]
        · rw [if_neg room, if_neg fun both => room both.2]

/-- There are no more units than bytes. -/
theorem length_units_le (data : Bytes) : (unitsFrom data 0).1.length ≤ data.size := by
  obtain ⟨ascends, inside⟩ := visitedFrom_ascends data 0
  -- Ascending offsets are distinct, and there are no more of them than places for one.
  have distinct : (visited data).Nodup := ascends.imp Nat.ne_of_lt
  have places : visited data ⊆ List.range data.size := fun place found =>
    List.mem_range.mpr (inside place found).2
  have fewer := (distinct.subperm places).length_le
  simp only [visited, visitedFrom, List.length_append, List.length_map, List.length_range] at fewer
  omega

/-- A section is parsed without a trap. -/
theorem parse_eq_pure {data : Bytes} (bounded : data.size < greatestOffset) :
    Watched.parse data = pure (parse data) := by
  have walked : Watched.unitsFrom data (data.size + 1) 0 = (pure (unitsFrom data 0) : Run Empty _) :=
    unitsFrom_eq_pure bounded _ (Nat.zero_le _) (Nat.lt_succ_self _)
  have few := length_units_le data
  have complete : (unitsFrom data 0).1.countP LineUnit.isComplete ≤ (unitsFrom data 0).1.length :=
    List.countP_le_length
  -- What is not complete is counted by itself there, and as the rest here.
  have others : (unitsFrom data 0).1.countP (fun unit => !unit.isComplete) =
      (unitsFrom data 0).1.length - (unitsFrom data 0).1.countP LineUnit.isComplete := by
    simp [(unitsFrom data 0).1.length_eq_countP_add_countP LineUnit.isComplete]
  simp only [greatestOffset] at bounded
  rw [Watched.parse, walked, pure_bind]
  dsimp only
  rw [Run.counted_eq_pure (by omega), pure_bind, others, Run.counted_eq_pure (by omega), pure_bind,
    parse]

/--
Every section that is no longer than an allocation can be is parsed without a trap.

So each loop ends in time, each of its rounds goes forward inside its bytes, and no slice, quotient,
sum or difference is out of range.
-/
theorem parse_untrapped (data : Bytes) (bounded : data.size ≤ 2 ^ 63 - 1) :
    (Watched.parse data).Yields (pure (parse data)) ∧
      (visited data).Pairwise (· < ·) ∧ (∀ offset ∈ visited data, offset < data.size) ∧
      ∀ (header : Header) (machine : Machine) (cursor : Cursor), header.lineRange ≠ 0 →
        cursor.data.size ≤ data.size → cursor.position < cursor.data.size →
        machine.rows.size < 2 ^ 63 →
        ∃ after result, step header machine cursor = (pure (after, result) : Run Empty _) ∧
          ∀ next, result = .ok next → next.data = cursor.data ∧
            cursor.position < next.position ∧ next.position ≤ cursor.data.size := by
  have least : data.size < greatestOffset := Nat.lt_of_le_of_lt bounded (by decide)
  obtain ⟨ascends, inside⟩ := visitedFrom_ascends data 0
  refine ⟨?_, ascends, fun offset found => (inside offset found).2, ?_⟩
  · rw [parse_eq_pure least]
    exact Run.yields_pure _
  · intro header machine cursor divisible within more few
    exact step_forward divisible (within.trans_lt least) more (Nat.lt_of_le_of_lt few (by decide))

/-- A section of one unit in which an address advances by 254 times 255 and an operand is said to
have 2^64 - 2 bytes. -/
def frayed : Bytes :=
  #[0x1F, 0, 0, 0, 2, 0, 12, 0, 0, 0, 0xFF, 1, 0x80, 1, 1, 0, 0x61, 0, 0, 0, 0, 0,
    0xFF, 0, 0xFF, 0xFF, 0xFF, 0xFF, 0xFF, 0xFF, 0xFF, 0xFF, 0xFF, 1, 2]

/-- The header of that unit. -/
def frayedHeader : Header :=
  { version := 2, minInstructionLength := 0xFF, maxOperations := 1, defaultIsStmt := true,
    lineBase := -128, lineRange := 1, opcodeBase := 1, operandCounts := #[], directories := #[],
    files := #["a"], programStart := 22 }

/-- The section is parsed without a trap, and its first opcode takes a byte. -/
theorem parse_untrapped_frayed :
    frayed.size ≤ 2 ^ 63 - 1 ∧ (Watched.parse frayed).Yields (pure (parse frayed)) ∧
      (visited frayed).Pairwise (· < ·) ∧ (∀ offset ∈ visited frayed, offset < frayed.size) ∧
      frayedHeader.lineRange ≠ 0 ∧ 22 < frayed.size ∧
      (Machine.initial frayedHeader).rows.size < 2 ^ 63 ∧
      ∃ after result, step frayedHeader (.initial frayedHeader) ⟨frayed, 22⟩ =
          (pure (after, result) : Run Empty _) ∧
        ∀ next, result = .ok next → next.data = frayed ∧
          22 < next.position ∧ next.position ≤ frayed.size := by
  have bounded : frayed.size ≤ 2 ^ 63 - 1 := by decide
  have divisible : frayedHeader.lineRange ≠ 0 := by decide
  have more : 22 < frayed.size := by decide
  have few : (Machine.initial frayedHeader).rows.size < 2 ^ 63 := by decide
  obtain ⟨parsed, ascends, inside, steps⟩ := parse_untrapped frayed bounded
  exact ⟨bounded, parsed, ascends, inside, divisible, more, few,
    steps frayedHeader (.initial frayedHeader) ⟨frayed, 22⟩ divisible (Nat.le_refl _) more few⟩

end Footprint.LineTable
