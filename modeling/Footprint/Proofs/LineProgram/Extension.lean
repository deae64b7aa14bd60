import Footprint.LineProgram.Run
import Footprint.Proofs.Cursor.Extension

/-! A unit whose bytes end early emits the first of the rows that it emits with all its bytes. -/

namespace Footprint.LineProgram

open Read

section Header

/-- A length stays the same. -/
theorem persists_length (format : Format) : Persists format.length := by
  cases format with
  | narrow => exact persists_word32.map UInt32.toNat
  | wide => exact persists_word64.map UInt64.toNat

/-- Items that have ended stay the same. -/
theorem persists_itemsUntilZero {α : Type} {item : Read α} (moves : Moves item)
    (each : Persists item) (items : Array α) : Persists (itemsUntilZero item moves items) := by
  intro before value after done tail
  -- Each round looks at the next byte, and reads the next item if it is not zero.
  fun_induction itemsUntilZero item moves items before with
  | case1 items before ahead =>
    cases done
    rw [itemsUntilZero_eq, Cursor.peek?_extend ahead]
    rfl
  | case2 | case3 => contradiction
  | case4 items before byte nonzero ahead value middle read ih =>
    rw [itemsUntilZero_eq, Cursor.peek?_extend ahead]
    dsimp only
    rw [if_neg nonzero, each _ _ _ read tail]
    exact ih done

/-- A file stays the same. -/
theorem persists_file (directories : Array String) : Persists (file directories) :=
  persists_text.bind fun _ => persists_unsignedLeb.bind fun _ =>
    persists_unsignedLeb.bind fun _ => persists_unsignedLeb.bind fun _ => persists_pure _

/-- Directories and files stay the same. -/
theorem persists_fileTable : Persists fileTable :=
  (persists_itemsUntilZero _ persists_text _).bind fun directories =>
    (persists_itemsUntilZero _ (persists_file directories) _).bind fun _ => persists_pure _

/-- A place of the first opcode that lies inside the bytes stays the same. -/
theorem persists_readProgramStart (format : Format) : Persists (readProgramStart format) := by
  refine (persists_length format).bind fun length => persists_position.bind fun start => ?_
  intro before value after done tail
  rw [bind_of_ok (get_eq _)] at done ⊢
  -- With more bytes, a length that stayed within the bytes stays within them.
  split at done
  · rename_i inside
    have within : start + length ≤ (before.extend tail).data.size :=
      Nat.le_trans inside Cursor.size_extend_le
    cases done
    rw [if_pos within]
    rfl
  · contradiction

/-- The greatest number of operations stays the same. -/
theorem persists_readMaxOperations (version : UInt16) : Persists (readMaxOperations version) := by
  unfold readMaxOperations
  split
  · exact persists_byte
  · exact persists_pure 1

/-- The fields of a header stay the same. -/
theorem persists_readFields (version : UInt16) (programStart : Nat) :
    Persists (Header.readFields version programStart) := by
  refine persists_byte.bind fun minInstructionLength => ?_
  refine (persists_readMaxOperations version).bind fun maxOperations => ?_
  refine persists_byte.bind fun isStmt => ?_
  refine persists_signedByte.bind fun lineBase => ?_
  refine persists_byte.bind fun lineRange => ?_
  refine persists_byte.bind fun opcodeBase => ?_
  refine (persists_several persists_byte _ _).bind fun operandCounts => ?_
  -- Without a line range the tables are not read, however many bytes there are.
  split
  · exact persists_pure _
  · exact persists_fileTable.bind fun _ => persists_pure _

/-- A header stays the same. -/
theorem persists_header (format : Format) : Persists (Header.read format) := by
  refine persists_word16.bind fun version => ?_
  split
  · exact persists_pure _
  · exact (persists_readProgramStart format).bind fun programStart =>
      persists_readFields version programStart

end Header

section Instruction

/-- Operands that are passed over stay the same. -/
theorem persists_skipOperands (count : Nat) : Persists (skipOperands count) := by
  induction count with
  | zero => exact persists_pure ()
  | succ count ih => exact persists_unsignedLeb.bind fun _ => ih

/-- A standard instruction stays the same. -/
theorem persists_standard (header : Header) (opcode : UInt8) :
    Persists (standard header opcode) := by
  unfold standard
  -- An opcode has no operand, one of its own kind, or as many as the header counts.
  split
  · exact persists_pure _
  · exact persists_unsignedLeb.map _
  · exact persists_signedLeb.map _
  · exact persists_unsignedLeb.map _
  · exact persists_unsignedLeb.map _
  · exact persists_pure _
  · exact persists_pure _
  · exact persists_pure _
  · exact persists_word16.map _
  · exact (persists_skipOperands _).bind fun _ => persists_pure _

/-- An instruction that ends where its last byte was read ends there with more bytes, too. -/
theorem persists_fetched (instruction : Instruction) : Persists (fetched instruction) :=
  persists_position.bind fun _ => persists_pure _

/-- The instruction of an extended opcode stays the same. -/
theorem persists_extendedInstruction (opcode : UInt8) (operandLength : Nat) :
    Persists (extendedInstruction opcode operandLength) := by
  unfold extendedInstruction
  split
  · exact persists_pure _
  · exact (persists_address _).bind fun _ => persists_pure _
  · exact persists_pure _

/-- An extended instruction stays the same. -/
theorem persists_extended : Persists extended := by
  refine persists_unsignedLeb.bind fun length => ?_
  split
  · exact persists_fetched _
  · refine persists_byte.bind fun opcode => persists_position.bind fun start => ?_
    -- Where the next instruction starts is told by the length, and not by the bytes there are.
    exact (persists_extendedInstruction _ _).bind fun _ => persists_pure _

/-- An instruction stays the same. -/
theorem persists_fetch (header : Header) : Persists (fetch header) := by
  refine persists_byte.bind fun opcode => ?_
  split
  · exact persists_extended
  · split
    · exact (persists_standard header opcode).bind fun instruction => persists_fetched instruction
    · exact persists_fetched _

end Instruction

section Rows

variable {machine : Machine} {header : Header} {cursor : Cursor}

/-- Emitting takes no row away. -/
theorem Machine.prefix_emit (machine : Machine) (header : Header) :
    machine.rows.toList <+: (machine.emit header).rows.toList := by
  rw [Machine.emit]
  split
  · simp
  · exact List.prefix_rfl

/-- An instruction takes no row away. -/
theorem Machine.prefix_execute (machine : Machine) (header : Header) (instruction : Instruction) :
    machine.rows.toList <+: (machine.execute header instruction).rows.toList := by
  cases instruction with
  | copy => exact machine.prefix_emit header
  | special _ | endSequence => exact Machine.prefix_emit (machine.withRegisters _) header
  -- All other instructions change registers only.
  | _ => exact List.prefix_rfl

/-- A run takes no row away. -/
theorem Machine.prefix_run (machine : Machine) (header : Header) (cursor : Cursor) :
    machine.rows.toList <+: (machine.run header cursor).1.rows.toList := by
  fun_induction Machine.run machine header cursor with
  | case1 | case2 => exact List.prefix_rfl
  | case3 machine cursor more fetched after done next within ih =>
    exact (machine.prefix_execute header fetched.instruction).trans ih
  | case4 machine cursor more fetched after done next beyond =>
    exact machine.prefix_execute header fetched.instruction

/-- With more bytes behind, a run executes the same instruction first. -/
theorem Machine.run_extend {fetched : Fetched} {after : Cursor} (more : ¬ cursor.atEnd = true)
    (done : fetch header cursor = .ok fetched after) (tail : Bytes) :
    machine.run header (cursor.extend tail) =
      if fetched.next ≤ (cursor.extend tail).data.size then
        (machine.execute header fetched.instruction).run header
          { cursor.extend tail with position := fetched.next }
      else
        (machine.execute header fetched.instruction, some ⟨min fetched.next greatestOffset⟩) := by
  have goes : (cursor.extend tail).atEnd = false := Cursor.atEnd_extend (Bool.eq_false_iff.mpr more)
  rw [Machine.run_eq, if_neg (by simp [goes]), persists_fetch header _ _ _ done tail]

/-- A run over bytes that end early emits the first of the rows that it emits over all of them. -/
theorem Machine.prefix_run_extend (machine : Machine) (header : Header) (cursor : Cursor)
    (tail : Bytes) :
    (machine.run header cursor).1.rows.toList <+:
      (machine.run header (cursor.extend tail)).1.rows.toList := by
  -- Both runs go side by side until the early end stops one of them, and the other one goes on.
  fun_induction Machine.run machine header cursor with
  | case1 machine cursor ended => exact machine.prefix_run header _
  | case2 machine cursor more fault after failed => exact machine.prefix_run header _
  | case3 machine cursor more fetched after done next within ih =>
    rw [Machine.run_extend more done tail, if_pos (Nat.le_trans within Cursor.size_extend_le)]
    exact ih
  | case4 machine cursor more fetched after done next beyond =>
    rw [Machine.run_extend more done tail]
    -- The instruction has taken effect in both, whether its operand is all there or not.
    split
    · exact Machine.prefix_run _ header _
    · exact List.prefix_rfl

/-- A unit whose bytes end early emits the first of its rows. -/
theorem prefix_decodeUnit_extend (format : Format) (body : Cursor) (tail : Bytes) :
    (decodeUnit format body).rows.toList <+:
      (decodeUnit format (body.extend tail)).rows.toList := by
  unfold decodeUnit
  cases read : Header.read format body with
  | error fault after => exact List.nil_prefix
  | ok result after =>
    rw [persists_header format _ _ _ read tail]
    cases result with
    | error reason => exact List.nil_prefix
    | ok header => exact Machine.prefix_run_extend (.initial header) header _ tail

end Rows

end Footprint.LineProgram
