import Footprint.LineProgram.Run
import Footprint.Proofs.Cursor.Translation

/-! A line program emits the same rows wherever its unit stands. -/

namespace Footprint.LineProgram

variable {front : Bytes}

/-- A header whose program starts further on. -/
def Header.moved (count : Nat) (header : Header) : Header :=
  { header with programStart := count + header.programStart }

/-- An instruction whose successor stands further on. -/
def Fetched.moved (count : Nat) (fetched : Fetched) : Fetched :=
  { fetched with next := count + fetched.next }

/-- A length reads the same further on. -/
theorem translates_length (format : Format) :
    Translates front id format.length format.length := by
  cases format with
  | narrow => exact Read.translates_word32.map UInt32.toNat
  | wide => exact Read.translates_word64.map UInt64.toNat

/-- Items up to a zero byte read the same further on. -/
theorem translates_itemsUntilZero {α : Type} {item : Read α} (moves : Read.Moves item)
    (each : Translates front id item item) (items : Array α) :
    Translates front id (itemsUntilZero item moves items) (itemsUntilZero item moves items) := by
  intro cursor
  -- Each round looks at the next byte, which is the same in both runs of bytes.
  fun_induction itemsUntilZero item moves items cursor with
  | case1 items cursor ahead =>
    rw [itemsUntilZero_eq, Cursor.peek?_shift, ahead, Cursor.advance_shift]
    rfl
  | case2 items cursor ahead =>
    rw [itemsUntilZero_eq, Cursor.peek?_shift, ahead]
    rfl
  | case3 items cursor byte nonzero ahead fault after failed =>
    rw [itemsUntilZero_eq, Cursor.peek?_shift, ahead]
    dsimp only
    rw [if_neg nonzero, each cursor, failed]
    rfl
  | case4 items cursor byte nonzero ahead value after done ih =>
    rw [itemsUntilZero_eq, Cursor.peek?_shift, ahead]
    dsimp only
    rw [if_neg nonzero, each cursor, done]
    exact ih

/-- A file reads the same further on. -/
theorem translates_file (directories : Array String) :
    Translates front id (file directories) (file directories) :=
  Read.translates_text.bind fun _ => Read.translates_unsignedLeb.bind fun _ =>
    Read.translates_unsignedLeb.bind fun _ => Read.translates_unsignedLeb.bind fun _ =>
      translates_pure id _

/-- Directories and files read the same further on. -/
theorem translates_fileTable : Translates front id fileTable fileTable :=
  (translates_itemsUntilZero _ Read.translates_text _).bind fun directories =>
    (translates_itemsUntilZero _ (translates_file directories) _).bind fun _ =>
      translates_pure id _

/-- The place of the first opcode moves along. -/
theorem translates_readProgramStart (format : Format) :
    Translates front (front.size + ·) (readProgramStart format) (readProgramStart format) := by
  refine (translates_length format).bind fun length => ?_
  refine Read.translates_position.bind fun start => ?_
  dsimp only [id]
  intro cursor
  -- The length stays within the bytes in both runs or in neither.
  have bound : front.size + start + length ≤ (cursor.shift front).data.size ↔
      start + length ≤ cursor.data.size := by
    rw [Cursor.shift, Array.size_append]
    omega
  rw [Read.bind_of_ok (Read.get_eq _), Read.bind_of_ok (Read.get_eq _)]
  simp only [bound]
  split
  · rw [Nat.add_assoc]
    rfl
  · rfl

/-- The greatest number of operations reads the same further on. -/
theorem translates_readMaxOperations (version : UInt16) :
    Translates front id (readMaxOperations version) (readMaxOperations version) := by
  unfold readMaxOperations
  -- The version has been read already, and is the same in both.
  split
  · exact Read.translates_byte
  · exact translates_pure id 1

/-- The fields of a header read the same further on. -/
theorem translates_readFields (version : UInt16) (programStart : Nat) :
    Translates front (Except.map (Header.moved front.size))
      (Header.readFields version programStart)
      (Header.readFields version (front.size + programStart)) := by
  -- Nothing but the place that was handed over depends on where the fields stand.
  refine Read.translates_byte.bind fun minInstructionLength => ?_
  refine (translates_readMaxOperations version).bind fun maxOperations => ?_
  refine Read.translates_byte.bind fun isStmt => ?_
  refine Read.translates_signedByte.bind fun lineBase => ?_
  refine Read.translates_byte.bind fun lineRange => ?_
  refine Read.translates_byte.bind fun opcodeBase => ?_
  refine (Read.translates_several Read.translates_byte _ _).bind fun operandCounts => ?_
  dsimp only [id]
  split
  · exact translates_pure _ _
  · exact translates_fileTable.bind fun tables => translates_pure _ _

/-- A header reads the same further on, where its program starts further on. -/
theorem translates_header (format : Format) :
    Translates front (Except.map (Header.moved front.size)) (Header.read format)
      (Header.read format) := by
  refine Read.translates_word16.bind fun version => ?_
  dsimp only [id]
  -- An unsupported version is refused before any place matters.
  split
  · exact translates_pure _ _
  · exact (translates_readProgramStart format).bind fun programStart =>
      translates_readFields version programStart

/-- Operands that are passed over read the same further on. -/
theorem translates_skipOperands (count : Nat) :
    Translates front id (skipOperands count) (skipOperands count) := by
  -- Each operand is a number of variable length.
  induction count with
  | zero => exact translates_pure id ()
  | succ count ih => exact Read.translates_unsignedLeb.bind fun _ => ih

/-- A standard instruction reads the same further on. -/
theorem translates_standard (header : Header) (opcode : UInt8) :
    Translates front id (standard header opcode) (standard header opcode) := by
  unfold standard
  -- An opcode has no operand, one of its own kind, or as many as the header counts.
  split
  · exact translates_pure id _
  · exact Read.translates_unsignedLeb.map _
  · exact Read.translates_signedLeb.map _
  · exact Read.translates_unsignedLeb.map _
  · exact Read.translates_unsignedLeb.map _
  · exact translates_pure id _
  · exact translates_pure id _
  · exact translates_pure id _
  · exact Read.translates_word16.map _
  · exact (translates_skipOperands _).bind fun _ => translates_pure id _

/-- An instruction that ends where its last byte was read ends further on. -/
theorem translates_fetched (instruction : Instruction) :
    Translates front (Fetched.moved front.size) (fetched instruction) (fetched instruction) :=
  Read.translates_position.bind fun _ => translates_pure _ _

/-- The instruction of an extended opcode reads the same further on. -/
theorem translates_extendedInstruction (opcode : UInt8) (operandLength : Nat) :
    Translates front id (extendedInstruction opcode operandLength)
      (extendedInstruction opcode operandLength) := by
  unfold extendedInstruction
  -- Only an address is read from the operand.
  split
  · exact translates_pure id _
  · exact (Read.translates_address _).bind fun address => translates_pure id _
  · exact translates_pure id _

/-- An extended instruction reads the same further on. -/
theorem translates_extended :
    Translates front (Fetched.moved front.size) extended extended := by
  refine Read.translates_unsignedLeb.bind fun length => ?_
  dsimp only [id]
  split
  · exact translates_fetched _
  refine Read.translates_byte.bind fun opcode => ?_
  -- The instruction ends as far behind its opcode as its length says.
  refine Read.translates_position.bind fun start => ?_
  refine (translates_extendedInstruction _ _).bind fun instruction => ?_
  dsimp only [id]
  rw [Nat.add_assoc]
  exact translates_pure _ _

/-- An instruction reads the same further on. -/
theorem translates_fetch (header : Header) (count : Nat) :
    Translates front (Fetched.moved front.size) (fetch header) (fetch (header.moved count)) := by
  refine Read.translates_byte.bind fun opcode => ?_
  dsimp only [id]
  -- The header tells standard opcodes from special ones, and its start plays no part in that.
  split
  · exact translates_extended
  rw [Header.moved]
  split
  · exact (translates_standard header opcode).bind fun instruction => translates_fetched instruction
  · exact translates_fetched _

/-- Where the program starts makes no difference to an instruction. -/
theorem Machine.execute_moved (machine : Machine) (header : Header) (count : Nat)
    (instruction : Instruction) :
    machine.execute (header.moved count) instruction = machine.execute header instruction := by
  cases instruction <;> rfl

/-- A machine runs the same further on. -/
theorem Machine.run_shift (machine : Machine) (header : Header) (count : Nat) (cursor : Cursor) :
    (machine.run (header.moved count) (cursor.shift front)).1 = (machine.run header cursor).1 := by
  -- Each round fetches and executes the same instruction, and ends at the same bound.
  fun_induction Machine.run machine header cursor with
  | case1 machine cursor ended =>
    rw [Machine.run_eq, Cursor.atEnd_shift, if_pos ended]
  | case2 machine cursor more fault after failed =>
    rw [Machine.run_eq, Cursor.atEnd_shift, if_neg more, translates_fetch header count cursor,
      failed]
    rfl
  | case3 machine cursor more fetched after done next within ih =>
    have inside : front.size + fetched.next ≤ (cursor.shift front).data.size := by
      rw [Cursor.shift, Array.size_append]
      omega
    rw [Machine.run_eq, Cursor.atEnd_shift, if_neg more, translates_fetch header count cursor,
      done]
    simp only [shifted, Fetched.moved, if_pos inside, Machine.execute_moved]
    exact ih
  | case4 machine cursor more fetched after done next beyond =>
    have outside : ¬ front.size + fetched.next ≤ (cursor.shift front).data.size := by
      rw [Cursor.shift, Array.size_append]
      omega
    rw [Machine.run_eq, Cursor.atEnd_shift, if_neg more, translates_fetch header count cursor,
      done]
    simp only [shifted, Fetched.moved, if_neg outside, Machine.execute_moved, next]

/-- A unit has the same rows further on. -/
theorem rows_decodeUnit_shift (format : Format) (body : Cursor) :
    (decodeUnit format (body.shift front)).rows = (decodeUnit format body).rows := by
  have moved : Header.read format (body.shift front) = _ := translates_header format body
  unfold decodeUnit
  rw [moved]
  -- A header that cannot be used leaves no rows, wherever it stands.
  cases Header.read format body with
  | error fault after => rfl
  | ok result after =>
    cases result with
    | error reason => rfl
    | ok header =>
      simp only [shifted, Except.map, Outcome.rows]
      exact congrArg Machine.rows
        (Machine.run_shift (Machine.initial header) header front.size
          ⟨body.data, header.programStart⟩)

end Footprint.LineProgram
