import Footprint.Proofs.LineProgram.Decoding
import Footprint.Proofs.LineProgram.Watched

/-! A special opcode is short for three standard ones, and the constant advance for the address
advance of the greatest special opcode. -/

namespace Footprint.LineProgram

/-- The machine behind standard opcodes, whose operands lie ahead one after the other. -/
def Machine.perform (machine : Machine) (header : Header) : List UInt8 → Read Machine
  | [] => return machine
  | opcode :: opcodes => do
    let instruction ← standard header opcode
    (machine.execute header instruction).perform header opcodes

section Expansion

variable {header : Header} {machine : Machine} {opcode : UInt8}

/-- The line advance of a special opcode always fits a word. -/
theorem toInt_lineAdvance_eq (special : header.opcodeBase.toNat ≤ opcode.toNat) :
    (Machine.lineAdvance header opcode).toInt =
      header.lineBase.toInt +
        ((opcode.toNat - header.opcodeBase.toNat) % header.lineRange.toNat : Nat) := by
  have least := header.lineBase.le_toInt
  have most := header.lineBase.toInt_lt
  have rest : (opcode.toNat - header.opcodeBase.toNat) % header.lineRange.toNat < 256 :=
    Nat.lt_of_le_of_lt ((Nat.mod_le _ _).trans (Nat.sub_le _ _)) opcode.toNat_lt
  rw [toInt_lineAdvance header special]
  exact Int.bmod_eq_of_le (by omega) (by omega)

/-- A special opcode does what three standard instructions do. -/
theorem execute_special :
    machine.execute header (.special opcode) =
      ((machine.execute header (.advanceAddress (Machine.addressAdvance header opcode))).execute
        header (.advanceLine (Machine.lineAdvance header opcode))).execute header .copy := rfl

/-- A standard opcode is performed from its operands, and the others behind it. -/
theorem reads_perform {opcodes operands later : List UInt8} {instruction : Instruction}
    {result : Machine} (meant : Reads (standard header opcode) operands instruction)
    (rest : Reads ((machine.execute header instruction).perform header opcodes) later result) :
    Reads (machine.perform header (opcode :: opcodes)) (operands ++ later) result :=
  meant.bind rest

/-- The opcodes of these instructions, with any encodings of their operands behind them, lead to the
same machine. -/
theorem reads_expansion {first second : List UInt8}
    (count : Reads Read.unsignedLeb first (Machine.addressAdvance header opcode))
    (lines : Reads Read.signedLeb second (Machine.lineAdvance header opcode)) :
    Reads (machine.perform header [2, 3, 1]) (first ++ second)
      (machine.execute header (.special opcode)) := by
  have advances : Reads (standard header 2) first _ := count.map Instruction.advanceAddress
  have moves : Reads (standard header 3) second _ := lines.map Instruction.advanceLine
  have copies : Reads (standard header 1) [] Instruction.copy := reads_pure _
  have reads : Reads (machine.perform header [2, 3, 1]) (first ++ (second ++ ([] ++ []))) _ :=
    reads_perform advances (reads_perform moves (reads_perform copies (reads_pure _)))
  simpa only [List.append_nil, execute_special] using reads

/-- Only the address changes in a constant advance, as it does by the greatest special opcode. -/
theorem execute_advanceConstant :
    machine.execute header .advanceConstant =
      { machine with
        registers := { machine.registers with
          address := (machine.execute header (.special 255)).registers.address } } := by
  have moved : (machine.execute header (.special 255)).registers.address =
      machine.registers.address +
        Machine.addressAdvance header 255 * header.minInstructionLength.toUInt64 := by
    simp only [Machine.execute, Machine.executeSpecial, Machine.emitPlain, registers_emit]
    rfl
  rw [moved]
  rfl

end Expansion

/--
In a unit whose header was read, a special opcode does exactly what three standard opcodes do: the
address advances by the quotient of how far it lies above the first special opcode, the line by the
remainder above the least advance, and a row is copied. Both ways leave the same registers and the
same rows, and so the same table and the same number of rows, whether the row has a file or not; and
on a machine that watches its arithmetic, both are stopped by the same trap or by none.

The constant advance changes the address as the greatest special opcode does, and nothing else.
-/
theorem special_expands {format : Format} {body after : Cursor} {header : Header}
    (told : Header.read format body = .ok (.ok header) after) (machine : Machine) :
    (∀ opcode : UInt8, opcode ≠ 0 → header.opcodeBase ≤ opcode →
      ∃ (count : UInt64) (lines : Int64),
        count.toNat = (opcode.toNat - header.opcodeBase.toNat) / header.lineRange.toNat ∧
        lines.toInt = header.lineBase.toInt +
          ((opcode.toNat - header.opcodeBase.toNat) % header.lineRange.toNat : Nat) ∧
        Fetches (fetch header) [opcode] (.special opcode) ∧
        machine.execute header (.special opcode) =
          ((machine.execute header (.advanceAddress count)).execute header
            (.advanceLine lines)).execute header .copy ∧
        (∀ first second, Reads Read.unsignedLeb first count → Reads Read.signedLeb second lines →
          Reads (machine.perform header [2, 3, 1]) (first ++ second)
            (machine.execute header (.special opcode))) ∧
        (Watched.execute machine header (.special opcode) : Run Truncated Machine) = (do
          let advanced ← Watched.execute machine header (.advanceAddress count)
          let moved ← Watched.execute advanced header (.advanceLine lines)
          Watched.execute moved header .copy)) ∧
    machine.execute header .advanceConstant =
      { machine with
        registers := { machine.registers with
          address := (machine.execute header (.special 255)).registers.address } } ∧
    Reads (machine.perform header [8]) [] (machine.execute header .advanceConstant) ∧
    (Watched.execute machine header .advanceConstant : Run Truncated Machine) =
      pure (machine.execute header .advanceConstant) := by
  obtain ⟨divisible, -⟩ := Watched.told_of_read told
  refine ⟨fun opcode nonzero special => ?_, execute_advanceConstant, reads_pure _,
    Watched.advanceConstant_eq_pure divisible⟩
  have above : header.opcodeBase.toNat ≤ opcode.toNat := UInt8.le_iff_toNat_le.mp special
  refine ⟨Machine.addressAdvance header opcode, Machine.lineAdvance header opcode,
    toNat_addressAdvance header above, toInt_lineAdvance_eq above,
    fetches_special nonzero special, execute_special,
    fun first second count lines => reads_expansion count lines, ?_⟩
  -- The first two instructions are not watched, as all that they do may wrap around.
  exact Watched.special_eq_emitPlain divisible above

/-- The body of a unit up to its program: its header leaves no opcode to the standard ones, steps
by 255, has 14 line advances from -128 on, and names one file. -/
def baselessBytes : Bytes :=
  #[2, 0, 12, 0, 0, 0, 0xFF, 1, 0x80, 14, 0, 0, 0x61, 0, 0, 0, 0, 0]

/-- The header of these bytes. -/
def baseless : Header where
  version := 2
  minInstructionLength := 0xFF
  maxOperations := 1
  defaultIsStmt := true
  lineBase := -128
  lineRange := 14
  opcodeBase := 0
  operandCounts := #[]
  directories := #[]
  files := #["a"]
  programStart := 18

/-- A machine at the greatest address and the least line, where a basic block starts. -/
def extreme : Machine where
  registers :=
    { Registers.initial baseless with
      address := 0xFFFFFFFFFFFFFFFF
      line := Int64.minValue
      basicBlock := true }
  rows := #[]

/-- From there the greatest special opcode advances the address by 18 times 255 and the line by
-125, so that both wrap around, and the operands in a byte and in two bytes lead to the same row. -/
theorem special_expands_baseless :
    Header.read .narrow ⟨baselessBytes, 0⟩ = .ok (.ok baseless) ⟨baselessBytes, 18⟩ ∧
      (255 : UInt8) ≠ 0 ∧ baseless.opcodeBase ≤ 255 ∧
      Reads Read.unsignedLeb [18] 18 ∧ Reads Read.signedLeb [0x83, 0x7F] (-125) ∧
      Reads (extreme.perform baseless [2, 3, 1]) [18, 0x83, 0x7F]
        (extreme.execute baseless (.special 255)) ∧
      (extreme.execute baseless (.special 255)).rows = #[⟨4589, "a", 0, 0, true, true, false⟩] ∧
      (extreme.execute baseless .advanceConstant).registers =
        { extreme.registers with address := 4589 } := by
  have told : Header.read .narrow ⟨baselessBytes, 0⟩ = .ok (.ok baseless) ⟨baselessBytes, 18⟩ :=
    WatchedRead.ok_of_outcome (by decide +kernel)
  have nonzero : (255 : UInt8) ≠ 0 := by decide
  have special : baseless.opcodeBase ≤ 255 := by decide
  have first : Reads Read.unsignedLeb [18] 18 :=
    Leb128.reads_natural (Leb128.whole_last (by decide))
  have second : Reads Read.signedLeb [0x83, 0x7F] (-125) :=
    Leb128.reads_integer (Leb128.whole_more (by decide) (Leb128.whole_last (by decide)))
  obtain ⟨each, constant, -⟩ := special_expands told extreme
  obtain ⟨count, lines, quotient, remainder, -, -, expands, -⟩ := each 255 nonzero special
  obtain rfl : count = 18 := UInt64.toNat_inj.mp quotient
  obtain rfl : lines = -125 := Int64.toInt_inj.mp remainder
  refine ⟨told, nonzero, special, first, second, expands _ _ first second, by decide +kernel, ?_⟩
  rw [constant]
  decide +kernel

end Footprint.LineProgram
