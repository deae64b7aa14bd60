import Footprint.Proofs.Cursor.Leb128
import Footprint.Proofs.LineTable.Units

/-! Units of a line table as they are meant, and the bytes that an assembler writes for them. -/

namespace Footprint.LineProgram

/-- A text that a zero byte can end, and that does not end a list. -/
structure Name where
  text : String
  nonempty : text ≠ ""
  unbroken : '\x00' ∉ text.toList

/-- The bytes of a name with the zero behind them. -/
def Name.bytes (name : Name) : List UInt8 := Text.Utf8.encode name.text ++ [0]

/-- A file of a unit. -/
structure FileEntry where
  name : Name
  /-- The number of its directory, which counts from one; zero stands for none. -/
  directory : UInt64
  time : UInt64
  length : UInt64

/-- The bytes of a file. -/
def FileEntry.bytes (entry : FileEntry) : List UInt8 :=
  entry.name.bytes ++ (Leb128.unsignedBytes entry.directory.toNat ++
    (Leb128.unsignedBytes entry.time.toNat ++ Leb128.unsignedBytes entry.length.toNat))

/-- A standard instruction that has a meaning. -/
inductive Standard where
  | copy
  | advancePc (count : UInt64)
  | advanceLine (count : Int64)
  | setFile (number : UInt64)
  | setColumn (column : UInt64)
  | negateStmt
  | setBasicBlock
  | constAddPc
  | fixedAdvancePc (count : UInt16)

namespace Standard

/-- The opcode of a standard instruction. -/
def opcode : Standard → UInt8
  | copy => 1
  | advancePc _ => 2
  | advanceLine _ => 3
  | setFile _ => 4
  | setColumn _ => 5
  | negateStmt => 6
  | setBasicBlock => 7
  | constAddPc => 8
  | fixedAdvancePc _ => 9

/-- The bytes of the operands of a standard instruction. -/
def operandBytes : Standard → List UInt8
  | advancePc number | setFile number | setColumn number => Leb128.unsignedBytes number.toNat
  | advanceLine count => Leb128.signedBytes count.toInt
  | fixedAdvancePc count => Bytes.digits 2 count.toNat
  | copy | negateStmt | setBasicBlock | constAddPc => []

end Standard

/-- An instruction as it is meant. -/
inductive Operation where
  | standard (instruction : Standard)
  /-- A standard opcode that has no meaning here. -/
  | unknownStandard (opcode : UInt8) (operands : List UInt64)
  | special (opcode : UInt8)
  | endSequence
  /-- The bytes of an address, however many. -/
  | setAddress (operand : List UInt8)
  | defineFile (entry : FileEntry)
  /-- An extended opcode that has no meaning here. -/
  | unknownExtended (opcode : UInt8) (operand : List UInt8)

namespace Operation

/-- The bytes of an extended instruction, which starts with its length. -/
def extendedBytes (opcode : UInt8) (operand : List UInt8) : List UInt8 :=
  0 :: (Leb128.unsignedBytes (operand.length + 1) ++ opcode :: operand)

/-- The bytes of an instruction. -/
def bytes : Operation → List UInt8
  | standard instruction => instruction.opcode :: instruction.operandBytes
  | unknownStandard opcode operands =>
    opcode :: operands.flatMap fun operand => Leb128.unsignedBytes operand.toNat
  | special opcode => [opcode]
  | endSequence => extendedBytes 1 []
  | setAddress operand => extendedBytes 2 operand
  | defineFile entry => extendedBytes 3 entry.bytes
  | unknownExtended opcode operand => extendedBytes opcode operand

/-- Whether an instruction can be written where the opcodes below the first special one have these
operand counts: opcodes from the first special one on have no other meaning, and a length is a
word. -/
def Fits (counts : List UInt8) : Operation → Prop
  | standard instruction => instruction.opcode.toNat ≤ counts.length
  | unknownStandard opcode operands =>
    9 < opcode.toNat ∧ counts[opcode.toNat - 1]?.map UInt8.toNat = some operands.length
  | special opcode => counts.length < opcode.toNat
  | endSequence => True
  | setAddress operand => operand.length + 1 < 2 ^ 64
  | defineFile entry => entry.bytes.length + 1 < 2 ^ 64
  | unknownExtended opcode operand => opcode ≠ 1 ∧ opcode ≠ 2 ∧ operand.length + 1 < 2 ^ 64

end Operation

instance (counts : List UInt8) (operation : Operation) : Decidable (operation.Fits counts) :=
  match operation with
  | .standard instruction => inferInstanceAs (Decidable (instruction.opcode.toNat ≤ counts.length))
  | .unknownStandard opcode operands =>
    inferInstanceAs (Decidable
      (9 < opcode.toNat ∧ counts[opcode.toNat - 1]?.map UInt8.toNat = some operands.length))
  | .special opcode => inferInstanceAs (Decidable (counts.length < opcode.toNat))
  | .endSequence => inferInstanceAs (Decidable True)
  | .setAddress operand => inferInstanceAs (Decidable (operand.length + 1 < 2 ^ 64))
  | .defineFile entry => inferInstanceAs (Decidable (entry.bytes.length + 1 < 2 ^ 64))
  | .unknownExtended opcode operand =>
    inferInstanceAs (Decidable (opcode ≠ 1 ∧ opcode ≠ 2 ∧ operand.length + 1 < 2 ^ 64))

/-- A length behind a unit's version. -/
def Format.offsetBytes : Format → Nat → List UInt8
  | .narrow, length => Bytes.digits 4 length
  | .wide, length => Bytes.digits 8 length

/-- What a unit is assembled from. -/
structure Draft where
  format : Format
  version : UInt16
  minInstructionLength : UInt8
  maxOperations : UInt8
  /-- Zero for no. -/
  defaultIsStmt : UInt8
  lineBase : Int8
  lineRange : UInt8
  /-- The operand counts of the opcodes below the first special one. -/
  operandCounts : List UInt8
  directories : List Name
  files : List FileEntry
  /-- Bytes between the files and the program. -/
  padding : List UInt8
  program : List Operation

namespace Draft

/-- The first special opcode. -/
def opcodeBase (draft : Draft) : UInt8 := UInt8.ofNat (draft.operandCounts.length + 1)

/-- The bytes of the greatest number of operations, which older versions leave out. -/
def maxOperationsBytes (draft : Draft) : List UInt8 :=
  if 4 ≤ draft.version then [draft.maxOperations] else []

/-- The bytes of the fields behind the header's length. -/
def fieldBytes (draft : Draft) : List UInt8 :=
  [draft.minInstructionLength] ++ (draft.maxOperationsBytes ++ ([draft.defaultIsStmt] ++
    ([draft.lineBase.toUInt8] ++ ([draft.lineRange] ++ ([draft.opcodeBase] ++
      (draft.operandCounts ++
        (draft.directories.flatMap Name.bytes ++ [0] ++
          (draft.files.flatMap FileEntry.bytes ++ [0]))))))))

/-- The bytes of the program. -/
def programBytes (draft : Draft) : List UInt8 := draft.program.flatMap Operation.bytes

/-- The bytes between a unit's length and its program. -/
def headBytes (draft : Draft) : List UInt8 :=
  Bytes.digits 2 draft.version.toNat ++
    (draft.format.offsetBytes (draft.fieldBytes ++ draft.padding).length ++
      (draft.fieldBytes ++ draft.padding))

/-- The bytes of a unit behind its length. -/
def body (draft : Draft) : List UInt8 := draft.headBytes ++ draft.programBytes

end Draft

/-- A unit that can be assembled. -/
structure Assembly extends Draft where
  supported : 2 ≤ version ∧ version ≤ 4
  divisible : lineRange ≠ 0
  opcodes : operandCounts.length < 255
  fits : ∀ operation ∈ program, operation.Fits operandCounts
  short : format.Spells toDraft.body.length

/-- The unit as it stands in a section. -/
def Assembly.frame (assembly : Assembly) : Frame where
  format := assembly.format
  body := assembly.body
  nonempty := by simp [Draft.body, Draft.headBytes, Bytes.digits]
  short := assembly.short

end Footprint.LineProgram
