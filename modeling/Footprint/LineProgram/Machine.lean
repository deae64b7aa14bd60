import Footprint.LineProgram.Instruction
import Footprint.Symbol

/-! The machine that runs a line program and emits the rows of a line table. -/

namespace Footprint.LineProgram

/-- The source line that an address belongs to. -/
structure Row where
  address : UInt64
  file : String
  line : UInt32
  column : UInt32
  /-- Whether a statement starts here. -/
  isStmt : Bool
  /-- Whether a basic block starts here. -/
  basicBlock : Bool
  /-- Whether the address is the first one past a sequence. -/
  endSequence : Bool
deriving DecidableEq, Repr

/-- The source location of a row. -/
def Row.location (row : Row) : SourceLocation := ⟨row.file, row.line⟩

/-- The registers of the machine, all of which wrap around. -/
structure Registers where
  address : UInt64
  /-- The number of the file, which counts from one. -/
  file : UInt64
  line : Int64
  column : UInt64
  isStmt : Bool
  basicBlock : Bool
  endSequence : Bool
deriving DecidableEq, Repr

namespace Registers

/-- The registers at the start of a sequence. -/
def initial (header : Header) : Registers where
  address := 0
  file := 1
  line := 1
  column := 0
  isStmt := header.defaultIsStmt
  basicBlock := false
  endSequence := false

/-- A line is shown as it is if it fits, and as zero if it does not. -/
def shownLine (registers : Registers) : UInt32 :=
  -- Advances may leave a line below zero, or above all that a row can show.
  let line := registers.line.toInt
  if 0 ≤ line ∧ line < UInt32.size then .ofNat line.toNat else 0

/-- A column is shown as it is if it fits, and as the greatest one if it does not. -/
def shownColumn (registers : Registers) : UInt32 :=
  if registers.column.toNat < UInt32.size then registers.column.toUInt32 else 0xFFFFFFFF

/-- The row the registers show; without a file there is none. -/
def row? (registers : Registers) (header : Header) : Option Row :=
  (header.file? registers.file).map fun file =>
    { address := registers.address
      file
      line := registers.shownLine
      column := registers.shownColumn
      isStmt := registers.isStmt
      basicBlock := registers.basicBlock
      endSequence := registers.endSequence }

/-- Advances the address by a number of instructions. -/
def advance (registers : Registers) (header : Header) (count : UInt64) : Registers :=
  { registers with address := registers.address + count * header.minInstructionLength.toUInt64 }

end Registers

/-- The registers, and the rows emitted so far in the order of their emission. -/
structure Machine where
  registers : Registers
  rows : Array Row
deriving DecidableEq, Repr

namespace Machine

/-- A machine that has emitted nothing. -/
def initial (header : Header) : Machine := ⟨.initial header, #[]⟩

/-- Emits the row that the registers show. -/
def emit (machine : Machine) (header : Header) : Machine :=
  match machine.registers.row? header with
  | some row => { machine with rows := machine.rows.push row }
  | none => machine

/-- After a row, a basic block no longer starts. -/
def emitPlain (machine : Machine) (header : Header) : Machine :=
  -- The flag goes whether there was a row or not.
  let emitted := machine.emit header
  { emitted with registers := { emitted.registers with basicBlock := false } }

/-- Changes the registers. -/
def withRegisters (machine : Machine) (change : Registers → Registers) : Machine :=
  { machine with registers := change machine.registers }

/-- How far an opcode lies above the first special one. -/
def adjusted (header : Header) (opcode : UInt8) : UInt8 := opcode - header.opcodeBase

/-- The line advance of a special opcode. -/
def lineAdvance (header : Header) (opcode : UInt8) : Int64 :=
  header.lineBase.toInt64 + (adjusted header opcode % header.lineRange).toUInt64.toInt64

/-- The address advance of a special opcode, in instructions. -/
def addressAdvance (header : Header) (opcode : UInt8) : UInt64 :=
  (adjusted header opcode / header.lineRange).toUInt64

/-- A special opcode advances address and line and emits a row. -/
def executeSpecial (machine : Machine) (header : Header) (opcode : UInt8) : Machine :=
  let moved := machine.withRegisters fun registers =>
    { registers.advance header (addressAdvance header opcode) with
      line := registers.line + lineAdvance header opcode }
  moved.emitPlain header

/-- One instruction. -/
def execute (machine : Machine) (header : Header) : Instruction → Machine
  | .copy => machine.emitPlain header
  | .advanceAddress count => machine.withRegisters (·.advance header count)
  | .advanceFixed count =>
    machine.withRegisters fun registers =>
      { registers with address := registers.address + count.toUInt64 }
  -- The advance is that of the greatest opcode, without its line and its row.
  | .advanceConstant => machine.withRegisters (·.advance header (addressAdvance header 255))
  | .advanceLine count =>
    machine.withRegisters fun registers => { registers with line := registers.line + count }
  | .setFile number => machine.withRegisters fun registers => { registers with file := number }
  | .setColumn column => machine.withRegisters fun registers => { registers with column }
  | .negateStatement =>
    machine.withRegisters fun registers => { registers with isStmt := !registers.isStmt }
  | .setBasicBlock =>
    machine.withRegisters fun registers => { registers with basicBlock := true }
  | .special opcode => machine.executeSpecial header opcode
  | .endSequence =>
    -- The flag is set for the last row only, since the registers start over behind it.
    let ended := machine.withRegisters fun registers => { registers with endSequence := true }
    (ended.emit header).withRegisters fun _ => .initial header
  | .setAddress address =>
    machine.withRegisters fun registers => { registers with address }
  | .none => machine

end Machine

end Footprint.LineProgram
