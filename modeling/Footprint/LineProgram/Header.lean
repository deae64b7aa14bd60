import Footprint.Cursor.Progress

/-! The header of a unit's line program: how its opcodes are read, and the files they name. -/

namespace Footprint.LineProgram

/-- The width of the lengths in a unit. -/
inductive Format where
  /-- Lengths of four bytes. -/
  | narrow
  /-- Lengths of eight bytes. -/
  | wide
deriving DecidableEq, Repr

/-- A length in the width of its unit. -/
def Format.length : Format → Read Nat
  | .narrow => return (← Read.word32).toNat
  | .wide => return (← Read.word64).toNat

/-- Why a unit is passed over. -/
inductive SkipReason where
  | unsupportedVersion (version : UInt16)
  /-- Special opcodes divide by the line range. -/
  | zeroLineRange
deriving DecidableEq, Repr

/-- The name of a reason, with its detail. -/
def SkipReason.label : SkipReason → String
  | .unsupportedVersion version => "UnsupportedVersion(" ++ toString version.toNat ++ ")"
  | .zeroLineRange => "ZeroLineRange"

/-- How a unit's opcodes are read, and the files they name. -/
structure Header where
  version : UInt16
  /-- The factor of most address advances. -/
  minInstructionLength : UInt8
  maxOperations : UInt8
  /-- Whether a line starts a statement before the program says so. -/
  defaultIsStmt : Bool
  /-- The least line advance of a special opcode. -/
  lineBase : Int8
  /-- The number of line advances of special opcodes. -/
  lineRange : UInt8
  /-- The first special opcode. -/
  opcodeBase : UInt8
  /-- The number of operands of each opcode below the first special one, from the first opcode
  on. -/
  operandCounts : Array UInt8
  directories : Array String
  /-- The paths of the files, of which the first has the number one. -/
  files : Array String
  /-- The place of the first opcode in the bytes that the unit stands in. -/
  programStart : Nat
deriving DecidableEq, Repr

namespace Header

/-- The file with a number, which counts from one. -/
def file? (header : Header) (number : UInt64) : Option String :=
  -- The number zero stands for no file.
  if number = 0 then none else header.files[number.toNat - 1]?

/-- The number of operands of an opcode, which counts from one. -/
def operandCount (header : Header) (opcode : UInt8) : Nat :=
  if opcode = 0 then 0 else (header.operandCounts[opcode.toNat - 1]?.getD 0).toNat

end Header

/-- Items up to a zero byte, which is read too. -/
def itemsUntilZero {α : Type} (item : Read α) (moves : Read.Moves item) (items : Array α)
    (cursor : Cursor) : EStateM.Result Truncated Cursor (Array α) :=
  match _ahead : cursor.peek? with
  | some 0 => .ok items (cursor.advance 1)
  | none => .error ⟨cursor.position⟩ cursor
  | some _ =>
    match _done : item cursor with
    | .error fault after => .error fault after
    | .ok value after => itemsUntilZero item moves (items.push value) after
termination_by cursor.data.size - cursor.position
decreasing_by
  have step := moves _ _ _ _done
  have inside : cursor.position < cursor.data.size := (Array.getElem?_eq_some_iff.mp _ahead).1
  have bounded := step.1.inside (Nat.le_of_lt inside)
  have same := congrArg Array.size step.1.data
  omega

/-- The items end at a zero byte, and go on behind any other item. -/
theorem itemsUntilZero_eq {α : Type} (item : Read α) (moves : Read.Moves item) (items : Array α)
    (cursor : Cursor) :
    itemsUntilZero item moves items cursor =
      match cursor.peek? with
      | none => .error ⟨cursor.position⟩ cursor
      | some byte =>
        if byte = 0 then .ok items (cursor.advance 1)
        else match item cursor with
          | .error fault after => .error fault after
          | .ok value after => itemsUntilZero item moves (items.push value) after := by
  rw [itemsUntilZero]
  split
  · rename_i ahead
    rw [ahead]
    rfl
  · rename_i ahead
    rw [ahead]
  · rename_i byte nonzero ahead
    rw [ahead]
    dsimp only
    rw [if_neg nonzero]
    split <;> rename_i done <;> rw [done]

/-- A file's path is its name, behind its directory if it has one; directories count from one. -/
def joined (directories : Array String) (number : UInt64) (name : String) : String :=
  if number = 0 then name
  else
    match directories[number.toNat - 1]? with
    | some directory => directory ++ "/" ++ name
    -- A directory that the unit does not list is left out.
    | none => name

/-- A file: its name, the number of its directory, and a time and a length that are not kept. -/
def file (directories : Array String) : Read String := do
  let name ← Read.text
  let directory ← Read.unsignedLeb
  -- The time and the length of the file.
  let _ ← Read.unsignedLeb
  let _ ← Read.unsignedLeb
  return joined directories directory name

/-- Reading a file moves the cursor. -/
theorem moves_file (directories : Array String) : Read.Moves (file directories) :=
  Read.moves_text.bind fun _ => Read.moves_unsignedLeb.keeps.bind fun _ =>
    Read.moves_unsignedLeb.keeps.bind fun _ => Read.moves_unsignedLeb.keeps.bind fun _ =>
      Read.keeps_pure _

/-- Directories, then files, each list up to a zero byte. -/
def fileTable : Read (Array String × Array String) := do
  let directories ← itemsUntilZero Read.text Read.moves_text #[]
  -- The paths of files are joined with the directories just read.
  let files ← itemsUntilZero (file directories) (moves_file directories) #[]
  return (directories, files)

/-- The operand counts of the opcodes below the first special one. -/
def readOperandCounts (opcodeBase : UInt8) : Read (Array UInt8) :=
  Read.several Read.byte (opcodeBase.toNat - 1) #[]

/-- The place of the first opcode: the header's length counts from behind itself, and may not
leave the unit. -/
def readProgramStart (format : Format) : Read Nat := do
  let length ← format.length
  let start ← Read.position
  if start + length ≤ (← get).data.size then return start + length else throw ⟨start⟩

/-- The greatest number of operations in an instruction, which is one before the version that
tells it. -/
def readMaxOperations (version : UInt16) : Read UInt8 :=
  if 4 ≤ version then Read.byte else return 1

/-- The fields behind a header's length. -/
def Header.readFields (version : UInt16) (programStart : Nat) : Read (Except SkipReason Header) := do
  let minInstructionLength ← Read.byte
  let maxOperations ← readMaxOperations version
  let defaultIsStmt := (← Read.byte) != 0
  let lineBase ← Read.signedByte
  let lineRange ← Read.byte
  let opcodeBase ← Read.byte
  let operandCounts ← readOperandCounts opcodeBase
  -- The tables of a unit that is passed over are not read.
  if lineRange = 0 then return .error .zeroLineRange
  let (directories, files) ← fileTable
  return .ok
    { version, minInstructionLength, maxOperations, defaultIsStmt, lineBase, lineRange, opcodeBase,
      operandCounts, directories, files, programStart }

/-- The header at the start of a unit's body, or the reason to pass over the unit. -/
def Header.read (format : Format) : Read (Except SkipReason Header) := do
  let version ← Read.word16
  -- The layout of what follows is known for these versions only.
  if version < 2 ∨ 4 < version then return .error (.unsupportedVersion version)
  let programStart ← readProgramStart format
  Header.readFields version programStart

end Footprint.LineProgram
