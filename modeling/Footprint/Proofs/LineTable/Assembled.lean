import Footprint.Proofs.LineProgram.Decoding

/-! The table of assembled units is the one that their instructions mean. -/

namespace Footprint

namespace LineProgram

/-- An instruction has bytes. -/
theorem Operation.bytes_ne_nil (operation : Operation) : operation.bytes ≠ [] := by
  cases operation <;> simp [Operation.bytes, Operation.extendedBytes]

/-- A machine runs through the bytes of a program and executes its instructions. -/
theorem run_between {draft : Draft} (opcodes : draft.operandCounts.length < 255)
    {program : List Operation} (fits : ∀ operation ∈ program, operation.Fits draft.operandCounts)
    (start : Nat) (machine : Machine) (behind : List UInt8) :
    machine.run (draft.header start) (.between behind (program.flatMap Operation.bytes)) =
      (program.foldl (fun machine operation =>
        machine.execute (draft.header start) operation.instruction) machine, none) := by
  -- The bytes of an instruction that was executed are behind the next one.
  induction program generalizing machine behind with
  | nil =>
    -- The program is over.
    rw [Machine.run_eq, if_pos (by simp)]
    rfl
  | cons operation program ih =>
    obtain ⟨first, rest⟩ := List.forall_mem_cons.mp fits
    have more : ¬ (Cursor.between behind
        (operation.bytes ++ program.flatMap Operation.bytes)).atEnd = true := by
      simp [operation.bytes_ne_nil]
    obtain ⟨after, done⟩ := fetches_operation opcodes first start behind
      (program.flatMap Operation.bytes)
    have inside : (behind ++ operation.bytes).length ≤ (Cursor.between behind
        (operation.bytes ++ program.flatMap Operation.bytes)).data.size := by
      simp
    have later := ih rest (machine.execute (draft.header start) operation.instruction)
      (behind ++ operation.bytes)
    rw [Machine.run_eq, List.flatMap_cons, if_neg more, done]
    dsimp only
    rw [if_pos inside, List.foldl_cons, ← later]
    simp [Cursor.between]

/-- The rows of an assembled unit are those that its instructions mean. -/
theorem rows_decodeUnit (assembly : Assembly) (behind : List UInt8) :
    (decodeUnit assembly.format (.between behind assembly.body)).rows.toList =
      assembly.rows := by
  -- The header is read, and the machine starts where the header says.
  obtain ⟨after, told⟩ := header_between assembly behind
  let header := assembly.header (behind ++ assembly.headBytes).length
  have start : Cursor.mk (Cursor.between behind assembly.body).data
        (behind ++ assembly.headBytes).length =
      .between (behind ++ assembly.headBytes) (assembly.program.flatMap Operation.bytes) := by
    simp [Cursor.between, Draft.body, Draft.programBytes]
  have run := run_between assembly.opcodes assembly.fits (behind ++ assembly.headBytes).length
    (.initial header) (behind ++ assembly.headBytes)
  have shown : (Machine.initial header).Shows (.initial assembly.toDraft) [] :=
    ⟨holds_initial, rfl⟩
  rw [decodeUnit, told]
  change ((Machine.initial header).run header
    ⟨_, (behind ++ assembly.headBytes).length⟩).1.rows.toList = _
  rw [start, run]
  exact shown.foldl assembly.opcodes assembly.fits

end LineProgram

namespace LineTable

open LineProgram

/-- An assembled unit emits the rows that its instructions mean. -/
theorem emitted_assembly (assembly : Assembly) :
    emitted assembly.frame.bytes.toArray = assembly.rows := by
  -- Alone, the unit stands behind no bytes.
  rw [← rows_unitBehind assembly.frame []]
  exact rows_decodeUnit assembly _

/-- Units that were assembled decode to the table that holds, for each address, the last row that
their instructions emit there. -/
theorem parse_assembled (assemblies : List Assembly) :
    let bytes := (assemblies.flatMap fun assembly => assembly.frame.bytes).toArray
    let rows := assemblies.flatMap fun assembly => assembly.rows
    Ascending (parse bytes).1.rows ∧
      ∀ address, (parse bytes).1.at? address =
        (rows.filter (·.address = address)).getLast? := by
  intro bytes rows
  -- Each unit emits its rows by itself, and the table keeps the last ones of all.
  have meant : emitted bytes = rows := by
    have each := emitted_append (assemblies.map Assembly.frame) #[]
    rw [Array.append_empty, emitted_empty, List.append_nil, List.flatMap_map, List.flatMap_map]
      at each
    simp only [emitted_assembly] at each
    exact each
  rw [parse_fst, meant]
  exact ⟨ascending_ofHistory rows, at?_ofHistory rows⟩

/-- A unit whose program emits a row by a special opcode and another one at the end. -/
example : ∃ assembly : Assembly,
    assembly.rows.map (fun row => (row.address, row.file, row.line)) =
      [(0x1000, "src/main.c", 3), (0x1004, "src/main.c", 3)] := by
  refine ⟨{
    format := .narrow, version := 2, minInstructionLength := 2, maxOperations := 1
    defaultIsStmt := 1, lineBase := -3, lineRange := 12, operandCounts := [0, 1, 1]
    directories := [⟨"src", by decide, by decide⟩]
    files := [⟨⟨"main.c", by decide, by decide⟩, 1, 0, 0⟩]
    padding := []
    program := [.setAddress (Bytes.digits 4 0x1000), .special 9, .standard (.advancePc 2),
      .endSequence]
    supported := by decide
    divisible := by decide
    opcodes := by decide
    fits := by decide
    short := by decide +kernel }, ?_⟩
  decide +kernel

end LineTable

end Footprint
