import Footprint.LineProgram.Header

/-! The instructions of a line program, read one at a time from its bytes. -/

namespace Footprint.LineProgram

/-- What one instruction of a line program asks for. -/
inductive Instruction where
  /-- Emits a row. -/
  | copy
  /-- Advances the address by a number of instructions. -/
  | advanceAddress (count : UInt64)
  /-- Advances the address by a number of bytes. -/
  | advanceFixed (count : UInt16)
  /-- Advances the address as the greatest special opcode does. -/
  | advanceConstant
  | advanceLine (count : Int64)
  | setFile (number : UInt64)
  | setColumn (column : UInt64)
  | negateStatement
  | setBasicBlock
  /-- Advances address and line together and emits a row. -/
  | special (opcode : UInt8)
  /-- Emits the last row of a sequence and starts over. -/
  | endSequence
  | setAddress (address : UInt64)
  /-- Asks for nothing that rows show. -/
  | none
deriving DecidableEq, Repr

/-- An instruction and the place of the one after it. -/
structure Fetched where
  instruction : Instruction
  next : Nat
deriving DecidableEq, Repr

/-- An instruction that ends where its last byte was read. -/
def fetched (instruction : Instruction) : Read Fetched :=
  return ⟨instruction, ← Read.position⟩

/-- Numbers of variable length that are not kept. -/
def skipOperands : Nat → Read Unit
  | 0 => return
  | count + 1 => do
    let _ ← Read.unsignedLeb
    skipOperands count

/-- The instruction of an opcode below the first special one; one that is not known says how
many operands to pass over. -/
def standard (header : Header) (opcode : UInt8) : Read Instruction :=
  match opcode.toNat with
  | 1 => return .copy
  | 2 => return .advanceAddress (← Read.unsignedLeb)
  | 3 => return .advanceLine (← Read.signedLeb)
  | 4 => return .setFile (← Read.unsignedLeb)
  | 5 => return .setColumn (← Read.unsignedLeb)
  | 6 => return .negateStatement
  | 7 => return .setBasicBlock
  | 8 => return .advanceConstant
  | 9 => return .advanceFixed (← Read.word16)
  -- The header says how long an instruction is whose meaning is not known.
  | _ => do
    skipOperands (header.operandCount opcode)
    return .none

/-- The instruction of an extended opcode whose operand has a length; an operand that is not known
is not read. -/
def extendedInstruction (opcode : UInt8) (operandLength : Nat) : Read Instruction :=
  match opcode.toNat with
  | 1 => return .endSequence
  | 2 => return .setAddress (← Read.address operandLength)
  | _ => return .none

/-- The instruction behind a length and a second opcode; the length tells where the next one
starts, whatever was read. -/
def extended : Read Fetched := do
  let length ← Read.unsignedLeb
  if length = 0 then fetched .none
  else
    -- The length counts the second opcode too.
    let opcode ← Read.byte
    let start ← Read.position
    let operandLength := length.toNat - 1
    return ⟨← extendedInstruction opcode operandLength, start + operandLength⟩

/-- The instruction at the cursor. -/
def fetch (header : Header) : Read Fetched := do
  let opcode ← Read.byte
  -- Zero is no opcode of its own, whatever the first special one is.
  if opcode = 0 then extended
  else if opcode < header.opcodeBase then fetched (← standard header opcode)
  else fetched (.special opcode)

end Footprint.LineProgram
