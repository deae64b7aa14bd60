import Footprint.Proofs.LineProgram.Assembly

/-! The line-number machine over numbers without bounds, and that the machine of words follows it. -/

namespace Footprint.LineProgram

namespace Draft

/-- The path of a file: its name, behind its directory if it has one. -/
def path (draft : Draft) (entry : FileEntry) : String :=
  match entry.directory.toNat with
  | 0 => entry.name.text
  | number + 1 =>
    match draft.directories[number]? with
    | some directory => directory.text ++ "/" ++ entry.name.text
    | none => entry.name.text

/-- The path of the file with a number, which counts from one. -/
def file? (draft : Draft) : Nat → Option String
  | 0 => none
  | number + 1 => draft.files[number]?.map draft.path

end Draft

/-- What the reference machine remembers between two instructions. -/
structure State where
  address : Nat
  file : Nat
  line : Int
  column : Nat
  isStmt : Bool
  basicBlock : Bool

namespace State

/-- The state at the start of a sequence. -/
def initial (draft : Draft) : State :=
  ⟨0, 1, 1, 0, draft.defaultIsStmt ≠ 0, false⟩

/-- An address is kept modulo the machine word. -/
def atAddress (state : State) (address : Nat) : State := { state with address := address % 2 ^ 64 }

/-- A line is kept modulo the machine word, as a signed number. -/
def atLine (state : State) (line : Int) : State := { state with line := line.bmod (2 ^ 64) }

/-- The row of a state, if its file is known: a line that is no number of thirty-two bits is shown
as zero, and a column that is none as the greatest one. -/
def row? (state : State) (draft : Draft) (ended : Bool) : Option Row :=
  (draft.file? state.file).map fun file =>
    { address := .ofNat state.address
      file
      line := if 0 ≤ state.line ∧ state.line < 2 ^ 32 then .ofNat state.line.toNat else 0
      column := .ofNat (min state.column (2 ^ 32 - 1))
      isStmt := state.isStmt
      basicBlock := state.basicBlock
      endSequence := ended }

/-- What a standard instruction makes of a state. -/
def standard (state : State) (draft : Draft) : Standard → State
  | .copy => { state with basicBlock := false }
  | .advancePc count =>
    state.atAddress (state.address + count.toNat * draft.minInstructionLength.toNat)
  | .advanceLine count => state.atLine (state.line + count.toInt)
  | .setFile number => { state with file := number.toNat }
  | .setColumn column => { state with column := column.toNat }
  | .negateStmt => { state with isStmt := !state.isStmt }
  | .setBasicBlock => { state with basicBlock := true }
  | .constAddPc =>
    let count := (255 - draft.opcodeBase.toNat) / draft.lineRange.toNat
    state.atAddress (state.address + count * draft.minInstructionLength.toNat)
  | .fixedAdvancePc count => state.atAddress (state.address + count.toNat)

/-- Where a special opcode moves a state before its row. -/
def advanced (state : State) (draft : Draft) (opcode : UInt8) : State :=
  let adjusted := opcode.toNat - draft.opcodeBase.toNat
  let count := adjusted / draft.lineRange.toNat
  (state.atAddress (state.address + count * draft.minInstructionLength.toNat)).atLine
    (state.line + (draft.lineBase.toInt + (adjusted % draft.lineRange.toNat : Nat)))

/-- The state after an instruction. -/
def next (state : State) (draft : Draft) : Operation → State
  | .standard instruction => state.standard draft instruction
  | .special opcode => { state.advanced draft opcode with basicBlock := false }
  | .endSequence => initial draft
  | .setAddress operand => { state with address := Bytes.littleEndian (operand.take 8) }
  | .unknownStandard .. | .defineFile _ | .unknownExtended .. => state

/-- The row that an instruction emits. -/
def emitted? (state : State) (draft : Draft) : Operation → Option Row
  | .standard .copy => state.row? draft false
  | .special opcode => (state.advanced draft opcode).row? draft false
  | .endSequence => state.row? draft true
  | _ => none

/-- The rows that instructions emit one after the other. -/
def rows (draft : Draft) (state : State) : List Operation → List Row
  | [] => []
  | operation :: operations =>
    (state.emitted? draft operation).toList ++ rows draft (state.next draft operation) operations

/-- The state after some instructions. -/
def after (draft : Draft) (state : State) (program : List Operation) : State :=
  program.foldl (fun state operation => state.next draft operation) state

/-- Instructions emit their rows behind those of the instructions before. -/
theorem rows_append (draft : Draft) (state : State) (first second : List Operation) :
    rows draft state (first ++ second) =
      rows draft state first ++ rows draft (after draft state first) second := by
  induction first generalizing state with
  | nil => rfl
  | cons operation first ih =>
    rw [List.cons_append, rows, rows, ih, List.append_assoc]
    rfl

end State

/-- The rows of a unit. -/
def Draft.rows (draft : Draft) : List Row := State.rows draft (.initial draft) draft.program

/-- The header that is read from a unit whose program starts at a place. -/
def Draft.header (draft : Draft) (programStart : Nat) : Header where
  version := draft.version
  minInstructionLength := draft.minInstructionLength
  maxOperations := if 4 ≤ draft.version then draft.maxOperations else 1
  defaultIsStmt := draft.defaultIsStmt != 0
  lineBase := draft.lineBase
  lineRange := draft.lineRange
  opcodeBase := draft.opcodeBase
  operandCounts := draft.operandCounts.toArray
  directories := (draft.directories.map Name.text).toArray
  files := (draft.files.map draft.path).toArray
  programStart

/-- The instruction that is read from the bytes of an operation. -/
def Operation.instruction : Operation → Instruction
  | .standard .copy => .copy
  | .standard (.advancePc count) => .advanceAddress count
  | .standard (.advanceLine count) => .advanceLine count
  | .standard (.setFile number) => .setFile number
  | .standard (.setColumn column) => .setColumn column
  | .standard .negateStmt => .negateStatement
  | .standard .setBasicBlock => .setBasicBlock
  | .standard .constAddPc => .advanceConstant
  | .standard (.fixedAdvancePc count) => .advanceFixed count
  | .special opcode => .special opcode
  | .endSequence => .endSequence
  | .setAddress operand => .setAddress (.ofNat (Bytes.littleEndian (operand.take 8)))
  | .unknownStandard .. | .defineFile _ | .unknownExtended .. => .none

/-- Registers that hold a state. -/
structure Registers.Holds (registers : Registers) (state : State) : Prop where
  address : registers.address.toNat = state.address
  file : registers.file.toNat = state.file
  line : registers.line.toInt = state.line
  column : registers.column.toNat = state.column
  isStmt : registers.isStmt = state.isStmt
  basicBlock : registers.basicBlock = state.basicBlock
  endSequence : registers.endSequence = false

variable {registers : Registers} {state : State} {draft : Draft} {start : Nat}

/-- The first registers hold the first state. -/
theorem holds_initial : (Registers.initial (draft.header start)).Holds (.initial draft) where
  address := rfl
  file := rfl
  line := rfl
  column := rfl
  isStmt := by
    simp only [Registers.initial, Draft.header, State.initial]
    by_cases zero : draft.defaultIsStmt = 0 <;> simp [zero]
  basicBlock := rfl
  endSequence := rfl

/-- The files of the header are those of the draft. -/
theorem file?_header (number : UInt64) :
    (draft.header start).file? number = draft.file? number.toNat := by
  rw [Header.file?]
  -- The number zero names no file, and any other the one before it from zero on.
  cases counted : number.toNat with
  | zero =>
    have zero : number = 0 := UInt64.toNat_inj.mp counted
    simp [zero, Draft.file?]
  | succ count =>
    have positive : number ≠ 0 := by
      rintro rfl
      simp at counted
    simp [positive, Draft.header, Draft.file?]

/-- A line shows as what of it fits. -/
theorem Registers.Holds.shownLine (holds : registers.Holds state) :
    registers.shownLine =
      if 0 ≤ state.line ∧ state.line < 2 ^ 32 then .ofNat state.line.toNat else 0 := by
  rw [Registers.shownLine, holds.line]
  rfl

/-- A column shows as what of it fits. -/
theorem Registers.Holds.shownColumn (holds : registers.Holds state) :
    registers.shownColumn = .ofNat (min state.column (2 ^ 32 - 1)) := by
  -- A column past the greatest number of thirty-two bits is shown as that number.
  have size : UInt32.size = 2 ^ 32 := rfl
  rw [Registers.shownColumn, ← holds.column]
  split
  · rename_i fits
    rw [Nat.min_eq_left (by omega)]
    rfl
  · rename_i past
    rw [Nat.min_eq_right (by omega)]
    rfl

/-- Registers show the row of the state that they hold. -/
theorem Registers.Holds.row? (holds : registers.Holds state) (ended : Bool) :
    ({ registers with endSequence := ended } : Registers).row? (draft.header start) =
      state.row? draft ended := by
  -- The row is there for the same files, and its fields are equal one by one.
  have address : registers.address = .ofNat state.address := by
    rw [← holds.address, UInt64.ofNat_toNat]
  rw [Registers.row?, State.row?, file?_header, holds.file, address]
  change Option.map (fun file => Row.mk _ _ registers.shownLine registers.shownColumn _ _ _) _ = _
  rw [holds.shownLine, holds.shownColumn, holds.isStmt, holds.basicBlock]

/-- A sum of words holds the sum of numbers modulo the word. -/
theorem Registers.Holds.atAddress (holds : registers.Holds state) (count : UInt64) :
    ({ registers with address := registers.address + count } : Registers).Holds
      (state.atAddress (state.address + count.toNat)) :=
  { holds with
    address := by
      rw [State.atAddress, UInt64.toNat_add, holds.address] }

/-- A sum of signed words holds the sum of integers modulo the word. -/
theorem Registers.Holds.atLine (holds : registers.Holds state) (count : Int64) :
    ({ registers with line := registers.line + count } : Registers).Holds
      (state.atLine (state.line + count.toInt)) :=
  { holds with
    line := by
      rw [State.atLine, Int64.toInt_add, holds.line] }

/-- An address advances by instructions as it does by their bytes. -/
theorem Registers.Holds.advance (holds : registers.Holds state) (count : UInt64) :
    (registers.advance (draft.header start) count).Holds
      (state.atAddress (state.address + count.toNat * draft.minInstructionLength.toNat)) := by
  have advanced := holds.atAddress (count * draft.minInstructionLength.toUInt64)
  -- The product may wrap around before the sum does.
  have wraps : state.atAddress
        (state.address + (count * draft.minInstructionLength.toUInt64).toNat) =
      state.atAddress (state.address + count.toNat * draft.minInstructionLength.toNat) := by
    simp [State.atAddress, UInt64.toNat_mul]
  rwa [wraps] at advanced

section Special

variable {opcode : UInt8}

/-- How far a special opcode lies above the first one. -/
theorem toNat_adjusted (header : Header) (special : header.opcodeBase.toNat ≤ opcode.toNat) :
    (Machine.adjusted header opcode).toNat = opcode.toNat - header.opcodeBase.toNat := by
  rw [Machine.adjusted]
  -- The difference of the bytes does not wrap around.
  exact UInt8.toNat_sub_of_le _ _ (UInt8.le_iff_toNat_le.mpr special)

/-- The address advance of a special opcode is a quotient. -/
theorem toNat_addressAdvance (header : Header)
    (special : header.opcodeBase.toNat ≤ opcode.toNat) :
    (Machine.addressAdvance header opcode).toNat =
      (opcode.toNat - header.opcodeBase.toNat) / header.lineRange.toNat := by
  rw [Machine.addressAdvance, UInt8.toNat_toUInt64, UInt8.toNat_div, toNat_adjusted header special]

/-- The line advance of a special opcode is a remainder above the least one. -/
theorem toInt_lineAdvance (header : Header) (special : header.opcodeBase.toNat ≤ opcode.toNat) :
    (Machine.lineAdvance header opcode).toInt =
      (header.lineBase.toInt +
        ((opcode.toNat - header.opcodeBase.toNat) % header.lineRange.toNat : Nat)).bmod
          (2 ^ 64) := by
  -- The remainder is a byte, so that as a signed word it is what it was.
  have rest : (Machine.adjusted header opcode % header.lineRange).toNat =
      (opcode.toNat - header.opcodeBase.toNat) % header.lineRange.toNat := by
    rw [UInt8.toNat_mod, toNat_adjusted header special]
  have small := (Machine.adjusted header opcode % header.lineRange).toNat_lt
  have word : (Machine.adjusted header opcode % header.lineRange).toUInt64 =
      .ofNat (Machine.adjusted header opcode % header.lineRange).toNat :=
    (UInt64.ofNat_uInt8ToNat _).symm
  rw [Machine.lineAdvance, Int64.toInt_add, Int8.toInt_toInt64, word, UInt64.toInt64_ofNat',
    Int64.toInt_ofNat_of_lt (by omega), rest]

/-- The registers advance by a special opcode as the state does. -/
theorem Registers.Holds.advanced (holds : registers.Holds state)
    (special : draft.opcodeBase.toNat ≤ opcode.toNat) :
    ({ registers.advance (draft.header start) (Machine.addressAdvance (draft.header start) opcode)
        with line := registers.line + Machine.lineAdvance (draft.header start) opcode } :
      Registers).Holds (state.advanced draft opcode) := by
  have forward : (registers.advance (draft.header start)
      (Machine.addressAdvance (draft.header start) opcode)).Holds _ := holds.advance _
  have moved := forward.atLine (Machine.lineAdvance (draft.header start) opcode)
  rw [toNat_addressAdvance (draft.header start) special,
    toInt_lineAdvance (draft.header start) special] at moved
  -- The line advance may wrap around before the sum does.
  simp only [State.atLine, State.atAddress, Int.add_bmod_bmod] at moved
  exact moved

end Special

/-- The first special opcode is one more than the opcodes before it. -/
theorem toNat_opcodeBase (opcodes : draft.operandCounts.length < 255) :
    draft.opcodeBase.toNat = draft.operandCounts.length + 1 := by
  rw [Draft.opcodeBase, UInt8.toNat_ofNat']
  omega

/-- A machine that holds a state and has emitted rows. -/
structure Machine.Shows (machine : Machine) (state : State) (rows : List Row) : Prop where
  registers : machine.registers.Holds state
  rows : machine.rows.toList = rows

section Step

variable {machine : Machine} {emitted : List Row}

/-- Emitting leaves the registers. -/
theorem registers_emit (header : Header) : (machine.emit header).registers = machine.registers := by
  rw [Machine.emit]
  split <;> rfl

/-- Emitting adds the row of the registers, if there is one. -/
theorem rows_emit (header : Header) :
    (machine.emit header).rows.toList =
      machine.rows.toList ++ (machine.registers.row? header).toList := by
  rw [Machine.emit]
  -- A file that is not known makes no row.
  cases machine.registers.row? header with
  | none => simp
  | some row => simp

/-- Changed registers hold a changed state, and no row is added. -/
theorem Machine.Shows.silent {changed : Registers} {after : State}
    (shown : machine.Shows state emitted) (holds : changed.Holds after) :
    Machine.Shows ⟨changed, machine.rows⟩ after (emitted ++ []) :=
  ⟨holds, by rw [List.append_nil, shown.rows]⟩

/-- A row is emitted, and a basic block no longer starts. -/
theorem Machine.Shows.emitPlain (shown : machine.Shows state emitted) :
    (machine.emitPlain (draft.header start)).Shows { state with basicBlock := false }
      (emitted ++ (state.row? draft false).toList) := by
  -- Between instructions, no sequence has ended.
  have same : { machine.registers with endSequence := false } = machine.registers := by
    rw [← shown.registers.endSequence]
  have row : machine.registers.row? (draft.header start) = state.row? draft false := by
    rw [← shown.registers.row? false, same]
  constructor
  · rw [Machine.emitPlain]
    simp only [registers_emit]
    exact { shown.registers with basicBlock := rfl }
  · rw [Machine.emitPlain, rows_emit, row, shown.rows]

/-- The end of a sequence emits a last row, and the registers start over. -/
theorem Machine.Shows.endSequence (shown : machine.Shows state emitted) :
    (machine.execute (draft.header start) .endSequence).Shows (.initial draft)
      (emitted ++ (state.row? draft true).toList) := by
  constructor
  · exact holds_initial
  · simp only [Machine.execute, Machine.withRegisters, rows_emit, shown.registers.row? true,
      shown.rows]

/-- A special opcode moves the registers and emits a row. -/
theorem Machine.Shows.special (shown : machine.Shows state emitted) {opcode : UInt8}
    (special : draft.opcodeBase.toNat ≤ opcode.toNat) :
    (machine.executeSpecial (draft.header start) opcode).Shows
      { state.advanced draft opcode with basicBlock := false }
      (emitted ++ ((state.advanced draft opcode).row? draft false).toList) :=
  -- The registers move first, and the row is that of the registers moved.
  have moved : (machine.withRegisters fun registers =>
      { registers.advance (draft.header start) (Machine.addressAdvance (draft.header start) opcode)
          with line := registers.line + Machine.lineAdvance (draft.header start) opcode }).Shows
      (state.advanced draft opcode) emitted :=
    ⟨shown.registers.advanced special, shown.rows⟩
  moved.emitPlain

/-- A standard instruction changes the registers as it does the state. -/
theorem Machine.Shows.standard (shown : machine.Shows state emitted) (instruction : Standard) :
    (machine.execute (draft.header start) (Operation.standard instruction).instruction).Shows
      (state.standard draft instruction)
      (emitted ++ (state.emitted? draft (.standard instruction)).toList) := by
  have holds := shown.registers
  cases instruction with
  | copy => exact shown.emitPlain
  | advancePc count => exact shown.silent (holds.advance count)
  | advanceLine count => exact shown.silent (holds.atLine count)
  | setFile number => exact shown.silent { holds with file := rfl }
  | setColumn column => exact shown.silent { holds with column := rfl }
  | negateStmt => exact shown.silent { holds with isStmt := congrArg not holds.isStmt }
  | setBasicBlock => exact shown.silent { holds with basicBlock := rfl }
  | constAddPc =>
    -- The address moves as by the special opcode 255, which no first special opcode is above.
    have greatest : draft.opcodeBase.toNat ≤ (255 : UInt8).toNat :=
      Nat.le_of_lt_succ draft.opcodeBase.toNat_lt
    have moved : (machine.registers.advance (draft.header start)
        (Machine.addressAdvance (draft.header start) 255)).Holds _ := holds.advance _
    rw [toNat_addressAdvance (draft.header start) greatest] at moved
    exact shown.silent moved
  | fixedAdvancePc count => exact shown.silent (holds.atAddress count.toUInt64)

/-- One instruction changes the registers as it does the state, and emits the same rows. -/
theorem Machine.Shows.execute (shown : machine.Shows state emitted)
    (opcodes : draft.operandCounts.length < 255) {operation : Operation}
    (fits : operation.Fits draft.operandCounts) :
    (machine.execute (draft.header start) operation.instruction).Shows
      (state.next draft operation) (emitted ++ (state.emitted? draft operation).toList) := by
  -- An instruction without a meaning changes nothing and emits nothing.
  have unchanged : machine.Shows state (emitted ++ []) := by
    rwa [List.append_nil]
  cases operation with
  | standard instruction => exact shown.standard instruction
  | special opcode =>
    apply shown.special
    rw [toNat_opcodeBase opcodes]
    exact fits
  | endSequence => exact shown.endSequence
  | setAddress operand =>
    refine shown.silent { shown.registers with address := ?_ }
    -- Eight bytes at most are taken, so that their number is a word.
    have digits := Bytes.littleEndian_lt (operand.take 8)
    have most : 256 ^ (operand.take 8).length ≤ 256 ^ 8 :=
      Nat.pow_le_pow_right (by decide) (List.length_take_le 8 operand)
    rw [UInt64.toNat_ofNat', Nat.mod_eq_of_lt (by omega)]
    rfl
  | unknownStandard opcode operands => exact unchanged
  | defineFile entry => exact unchanged
  | unknownExtended opcode operand => exact unchanged

/-- Instructions one after the other change the registers as they do the state, and emit the same
rows. -/
theorem Machine.Shows.foldl (shown : machine.Shows state emitted)
    (opcodes : draft.operandCounts.length < 255) {program : List Operation}
    (fits : ∀ operation ∈ program, operation.Fits draft.operandCounts) :
    (program.foldl (fun machine operation =>
      machine.execute (draft.header start) operation.instruction) machine).rows.toList =
      emitted ++ State.rows draft state program := by
  -- The machine after the first instruction shows the state after it.
  induction program generalizing machine state emitted with
  | nil => rw [State.rows, List.append_nil, List.foldl_nil, shown.rows]
  | cons operation program ih =>
    obtain ⟨first, rest⟩ := List.forall_mem_cons.mp fits
    rw [List.foldl_cons, ih (shown.execute opcodes first) rest, State.rows, List.append_assoc]

end Step

end Footprint.LineProgram
