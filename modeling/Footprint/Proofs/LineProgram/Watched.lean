import Footprint.Proofs.Cursor.WatchedLoops
import Footprint.Proofs.LineProgram.Reference

/-! Line programs decoded on a machine that watches its slices, its arithmetic and how often it goes
round, and is never stopped by one of these. -/

namespace Footprint.LineProgram.Watched

open WatchedRead

section Header

/-- A length in the width of its unit. -/
def length : Format → WatchedRead Nat
  | .narrow => return (← word32).toNat
  | .wide => return (← word64).toNat

/-- Items up to a zero byte, which is read too, for at most some rounds. -/
def itemsUpTo {α : Type} (item : WatchedRead α) : Nat → Array α → WatchedRead (Array α)
  | 0, _ => trapped .rounds
  | rounds + 1, items => do
    if (← get).peek? = some 0 then
      skip 1
      return items
    else itemsUpTo item rounds (items.push (← item))

/-- Items up to a zero byte, of which each takes a byte or more. -/
def itemsUntilZero {α : Type} (item : WatchedRead α) : WatchedRead (Array α) := do
  itemsUpTo item ((← get).remaining + 1) #[]

/-- A file: its name, the number of its directory, and a time and a length that are not kept. -/
def file (directories : Array String) : WatchedRead String := do
  let name ← text
  let directory ← unsignedLeb
  let _ ← unsignedLeb
  let _ ← unsignedLeb
  return joined directories directory name

/-- Directories, then files. -/
def fileTable : WatchedRead (Array String × Array String) := do
  let directories ← itemsUntilZero text
  let files ← itemsUntilZero (file directories)
  return (directories, files)

/-- The place of the first opcode, of which the sum may not fit eight bytes. -/
def programStart (format : Format) : WatchedRead Nat := do
  let length ← length format
  let start ← position
  match (Run.fitting? (start + length)).filter (· ≤ (← get).data.size) with
  | some place => return place
  | none => throw ⟨start⟩

/-- The greatest number of operations in an instruction. -/
def maxOperations (version : UInt16) : WatchedRead UInt8 :=
  if 4 ≤ version then byte else return 1

/-- The fields behind a header's length. -/
def fields (version : UInt16) (programStart : Nat) : WatchedRead (Except SkipReason Header) := do
  let minInstructionLength ← byte
  let maxOperations ← maxOperations version
  let defaultIsStmt := (← byte) != 0
  let lineBase ← signedByte
  let lineRange ← byte
  let opcodeBase ← byte
  let operandCounts ← several byte (opcodeBase.toNat - 1) #[]
  if lineRange = 0 then return .error .zeroLineRange
  let (directories, files) ← fileTable
  return .ok
    { version, minInstructionLength, maxOperations, defaultIsStmt, lineBase, lineRange, opcodeBase,
      operandCounts, directories, files, programStart }

/-- The header at the start of a unit's body. -/
def header (format : Format) : WatchedRead (Except SkipReason Header) := do
  let version ← word16
  if version < 2 ∨ 4 < version then return .error (.unsupportedVersion version)
  let programStart ← programStart format
  fields version programStart

/-- A length is read without a trap. -/
theorem follows_length (format : Format) : (length format).Follows format.length := by
  cases format with
  | narrow => exact follows_word32.map UInt32.toNat
  | wide => exact follows_word64.map UInt64.toNat

/-- A byte that is there is skipped. -/
theorem skip_one {cursor : Cursor} (inside : cursor.position < cursor.data.size) :
    Read.skip 1 cursor = .ok () (cursor.advance 1) := by
  have taken : Read.bytes 1 cursor = .ok _ _ := if_pos inside
  rw [Read.skip, Read.bind_of_ok taken]
  rfl

variable {α : Type}

/-- Items are read without a trap if each one is, and in no more rounds than there are bytes. -/
theorem yields_itemsUpTo {watched : WatchedRead α} {item : Read α}
    (follows : watched.Follows item) (moves : Read.Moves item)
    (ends : ∀ cursor : Cursor, cursor.peek? = none → item cursor = .error ⟨cursor.position⟩ cursor)
    (rounds : Nat) {cursor : Cursor} (sound : cursor.Sound) (enough : cursor.remaining < rounds)
    (items : Array α) :
    (itemsUpTo watched rounds items cursor).Yields
      (outcome (LineProgram.itemsUntilZero item moves items cursor)) := by
  -- The rounds left are always more than the bytes left, of which each item takes one.
  induction rounds generalizing cursor items with
  | zero => contradiction
  | succ rounds ih =>
    rw [itemsUpTo, itemsUntilZero_eq]
    change Run.Yields ((if cursor.peek? = some 0 then skip 1 >>= fun _ => pure items
      else watched >>= fun value => itemsUpTo watched rounds (items.push value) :
        WatchedRead (Array α)) cursor) _
    cases ahead : cursor.peek? with
    | none =>
      -- An item is wanted where no byte is left.
      have failed := follows.fails sound (ends cursor ahead)
      rw [if_neg (by simp)]
      change Run.Yields (watched cursor >>= _) _
      rw [failed]
      exact Run.yields_throw _
    | some byte =>
      have inside : cursor.position < cursor.data.size := (Array.getElem?_eq_some_iff.mp ahead).1
      dsimp only
      by_cases zero : byte = 0
      · rw [if_pos (congrArg some zero), if_pos zero]
        change Run.Yields (skip 1 cursor >>= _) _
        rw [(follows_skip 1).passes sound (skip_one inside)]
        exact Run.yields_pure _
      · rw [if_neg fun same => zero (Option.some.inj same), if_neg zero]
        change Run.Yields (watched cursor >>= _) _
        cases done : item cursor with
        | error fault after =>
          rw [follows.fails sound done]
          exact Run.yields_throw _
        | ok value after =>
          have step := moves cursor value after done
          have fewer : after.remaining < rounds := by
            have size := congrArg Array.size step.1.data
            simp only [Cursor.remaining] at enough ⊢
            omega
          rw [follows.passes sound done, pure_bind]
          exact ih (follows.stays cursor value after sound done) fewer (items.push value)

/-- Items up to a zero byte make a step. -/
theorem keeps_itemsUntilZero {item : Read α} (moves : Read.Moves item) (items : Array α) :
    Read.Keeps (LineProgram.itemsUntilZero item moves items) := by
  intro before value after done
  fun_induction LineProgram.itemsUntilZero item moves items before with
  | case1 items before ahead =>
    cases done
    have inside : before.position < before.data.size := (Array.getElem?_eq_some_iff.mp ahead).1
    exact ⟨rfl, Nat.le_add_right _ _, fun _ => inside⟩
  | case2 => contradiction
  | case3 => contradiction
  | case4 items before byte nonzero ahead value middle first ih =>
    exact (moves before value middle first).1.trans (ih done)

/-- Items up to a zero byte are read without a trap. -/
theorem follows_itemsUntilZero {watched : WatchedRead α} {item : Read α}
    (follows : watched.Follows item) (moves : Read.Moves item)
    (ends : ∀ cursor : Cursor, cursor.peek? = none →
      item cursor = .error ⟨cursor.position⟩ cursor) :
    (itemsUntilZero watched).Follows (LineProgram.itemsUntilZero item moves #[]) where
  same := fun _ sound =>
    yields_itemsUpTo follows moves ends _ sound (Nat.lt_succ_self _) #[]
  stays := by
    intro cursor value after sound done
    have step := keeps_itemsUntilZero moves #[] cursor value after done
    exact ⟨step.inside sound.inside, step.data ▸ sound.bounded⟩

/-- A text is wanted where no byte is left. -/
theorem text_end (cursor : Cursor) (ahead : cursor.peek? = none) :
    Read.text cursor = .error ⟨cursor.position⟩ cursor := by
  have past : ¬ cursor.position < cursor.data.size :=
    Nat.not_lt.mpr (Array.getElem?_eq_none_iff.mp ahead)
  rw [Read.text, Bytes.terminator?, dif_neg past]

/-- A file is wanted where no byte is left. -/
theorem file_end (directories : Array String) (cursor : Cursor) (ahead : cursor.peek? = none) :
    LineProgram.file directories cursor = .error ⟨cursor.position⟩ cursor := by
  simp only [LineProgram.file, Bind.bind, EStateM.bind, text_end cursor ahead]

/-- A file is read without a trap. -/
theorem follows_file (directories : Array String) :
    (file directories).Follows (LineProgram.file directories) := by
  refine follows_text.bind fun name => follows_unsignedLeb.bind fun directory => ?_
  exact follows_unsignedLeb.bind fun _ => follows_unsignedLeb.map fun _ =>
    joined directories directory name

/-- Directories and files are read without a trap. -/
theorem follows_fileTable : fileTable.Follows LineProgram.fileTable := by
  refine (follows_itemsUntilZero follows_text Read.moves_text text_end).bind fun directories => ?_
  exact (follows_itemsUntilZero (follows_file directories) (moves_file directories)
    (file_end directories)).map fun files => (directories, files)

/-- The place of the first opcode is computed without a trap. -/
theorem follows_programStart (format : Format) :
    (programStart format).Follows (readProgramStart format) := by
  refine (follows_length format).bind fun length => follows_position.bind fun start => ?_
  constructor
  · intro cursor sound
    change Run.Yields ((match (Run.fitting? (start + length)).filter (· ≤ cursor.data.size) with
      | some place => pure place
      | none => throw ⟨start⟩ : WatchedRead Nat) cursor)
      (outcome ((if start + length ≤ cursor.data.size then pure (start + length)
        else throw ⟨start⟩ : Read Nat) cursor))
    rw [Run.filter_fitting? sound.bounded]
    by_cases inside : start + length ≤ cursor.data.size
    · rw [if_pos inside, if_pos inside]
      exact Run.yields_pure _
    · rw [if_neg inside, if_neg inside]
      exact Run.yields_throw _
  · intro cursor value after sound done
    change (if start + length ≤ cursor.data.size then pure (start + length)
      else throw ⟨start⟩ : Read Nat) cursor = _ at done
    split at done
    · cases done
      exact sound
    · contradiction

/-- The number of operations is read without a trap. -/
theorem follows_maxOperations (version : UInt16) :
    (maxOperations version).Follows (readMaxOperations version) := by
  rw [maxOperations, readMaxOperations]
  split
  · exact follows_byte
  · exact follows_pure 1

/-- The fields of a header are read without a trap. -/
theorem follows_fields (version : UInt16) (programStart : Nat) :
    (fields version programStart).Follows (Header.readFields version programStart) := by
  refine follows_byte.bind fun minInstructionLength => ?_
  refine (follows_maxOperations version).bind fun maxOperations => ?_
  refine follows_byte.bind fun defaultIsStmt => follows_signedByte.bind fun lineBase => ?_
  refine follows_byte.bind fun lineRange => follows_byte.bind fun opcodeBase => ?_
  refine (follows_several follows_byte (opcodeBase.toNat - 1) #[]).bind fun operandCounts => ?_
  split
  · exact follows_pure _
  · exact follows_fileTable.bind fun tables => follows_pure _

/-- A header is read without a trap. -/
theorem follows_header (format : Format) : (header format).Follows (Header.read format) := by
  refine follows_word16.bind fun version => ?_
  split
  · exact follows_pure _
  · exact (follows_programStart format).bind fun programStart => follows_fields version programStart

end Header

section Fetch

/-- An instruction that ends where its last byte was read. -/
def fetched (instruction : Instruction) : WatchedRead Fetched :=
  return ⟨instruction, ← position⟩

/-- Numbers of variable length that are not kept. -/
def skipOperands : Nat → WatchedRead Unit
  | 0 => return
  | count + 1 => do
    let _ ← unsignedLeb
    skipOperands count

/-- The instruction of an opcode below the first special one. -/
def standard (header : Header) (opcode : UInt8) : WatchedRead Instruction :=
  match opcode.toNat with
  | 1 => return .copy
  | 2 => return .advanceAddress (← unsignedLeb)
  | 3 => return .advanceLine (← signedLeb)
  | 4 => return .setFile (← unsignedLeb)
  | 5 => return .setColumn (← unsignedLeb)
  | 6 => return .negateStatement
  | 7 => return .setBasicBlock
  | 8 => return .advanceConstant
  | 9 => return .advanceFixed (← word16)
  | _ => do
    skipOperands (header.operandCount opcode)
    return .none

/-- The instruction of an extended opcode whose operand has a length. -/
def extendedInstruction (opcode : UInt8) (operandLength : Nat) : WatchedRead Instruction :=
  match opcode.toNat with
  | 1 => return .endSequence
  | 2 => return .setAddress (← address operandLength)
  | _ => return .none

/-- The instruction behind a length and a second opcode, and the place behind it as far as it can be
named. -/
def extended : WatchedRead Fetched := do
  let length ← unsignedLeb
  if length = 0 then fetched .none
  else
    let opcode ← byte
    let start ← position
    let operandLength ← (Run.difference length.toNat 1 : Run Truncated Nat)
    return ⟨← extendedInstruction opcode operandLength, min (start + operandLength) greatestOffset⟩

/-- The instruction at the cursor. -/
def fetch (header : Header) : WatchedRead Fetched := do
  let opcode ← byte
  if opcode = 0 then extended
  else if opcode < header.opcodeBase then fetched (← standard header opcode)
  else fetched (.special opcode)

/-- What is fetched, with the next place as far as it can be named. -/
def named (fetched : Fetched) : Fetched := { fetched with next := min fetched.next greatestOffset }

/-- An instruction that ends inside the bytes is followed by a place that can be named. -/
theorem follows_fetched (instruction : Instruction) :
    (fetched instruction).Follows (LineProgram.fetched instruction >>= fun all => pure (named all)) where
  same := by
    intro cursor sound
    have inside : min cursor.position greatestOffset = cursor.position := by
      have position := Nat.lt_of_le_of_lt sound.inside sound.bounded
      simp only [greatestOffset]
      omega
    change Run.Yields (pure (Fetched.mk instruction cursor.position, cursor))
      (.ok (Fetched.mk instruction (min cursor.position greatestOffset), cursor))
    rw [inside]
    exact Run.yields_pure _
  stays := by
    intro cursor value after sound done
    cases done
    exact sound

/-- Operands are passed without a trap. -/
theorem follows_skipOperands (count : Nat) :
    (skipOperands count).Follows (LineProgram.skipOperands count) := by
  induction count with
  | zero => exact follows_pure ()
  | succ count ih => exact follows_unsignedLeb.bind fun _ => ih

/-- The operands of a standard opcode are read without a trap. -/
theorem follows_standard (header : Header) (opcode : UInt8) :
    (standard header opcode).Follows (LineProgram.standard header opcode) := by
  unfold standard LineProgram.standard
  obtain _ | _ | _ | _ | _ | _ | _ | _ | _ | _ | number := opcode.toNat
  · exact (follows_skipOperands _).map fun _ => Instruction.none
  · exact follows_pure Instruction.copy
  · exact follows_unsignedLeb.map Instruction.advanceAddress
  · exact follows_signedLeb.map Instruction.advanceLine
  · exact follows_unsignedLeb.map Instruction.setFile
  · exact follows_unsignedLeb.map Instruction.setColumn
  · exact follows_pure Instruction.negateStatement
  · exact follows_pure Instruction.setBasicBlock
  · exact follows_pure Instruction.advanceConstant
  · exact follows_word16.map Instruction.advanceFixed
  · exact (follows_skipOperands _).map fun _ => Instruction.none

/-- The operand of an extended opcode is read without a trap. -/
theorem follows_extendedInstruction (opcode : UInt8) (operandLength : Nat) :
    (extendedInstruction opcode operandLength).Follows
      (LineProgram.extendedInstruction opcode operandLength) := by
  unfold extendedInstruction LineProgram.extendedInstruction
  obtain _ | _ | _ | number := opcode.toNat
  · exact follows_pure Instruction.none
  · exact follows_pure Instruction.endSequence
  · exact (follows_address operandLength).map Instruction.setAddress
  · exact follows_pure Instruction.none

/-- An extended instruction is read without a trap, since its length counts the second opcode. -/
theorem follows_extended :
    extended.Follows (LineProgram.extended >>= fun all => pure (named all)) := by
  rw [extended, LineProgram.extended, bind_assoc]
  refine follows_unsignedLeb.bind fun length => ?_
  by_cases empty : length = 0
  · rw [if_pos empty, if_pos empty]
    exact follows_fetched _
  · rw [if_neg empty, if_neg empty]
    have counted : 1 ≤ length.toNat := UInt64.lt_iff_toNat_lt.mp (UInt64.pos_iff_ne_zero.mpr empty)
    simp only [Run.difference_eq_pure counted, bind_assoc, pure_bind]
    refine follows_byte.bind fun opcode => follows_position.bind fun start => ?_
    exact (follows_extendedInstruction opcode _).map fun instruction =>
      Fetched.mk instruction (min (start + (length.toNat - 1)) greatestOffset)

/-- Telling the place of the cursor leaves it there. -/
theorem keeps_position : Read.Keeps Read.position := by
  intro before value after done
  cases done
  exact .refl before

/-- Fetching an instruction makes a step. -/
theorem keeps_fetch (header : Header) : Read.Keeps (LineProgram.fetch header) := by
  have ends : ∀ instruction, Read.Keeps (LineProgram.fetched instruction) :=
    fun _ => keeps_position.bind fun _ => Read.keeps_pure _
  refine Read.moves_byte.keeps.bind fun opcode => ?_
  split
  · refine Read.moves_unsignedLeb.keeps.bind fun length => ?_
    split
    · exact ends _
    · refine Read.moves_byte.keeps.bind fun opcode => keeps_position.bind fun start => ?_
      refine Read.Keeps.bind ?_ fun _ => Read.keeps_pure _
      unfold LineProgram.extendedInstruction
      split
      · exact Read.keeps_pure _
      · exact ((Read.keeps_bytes _).bind fun _ => Read.keeps_pure _).bind fun _ => Read.keeps_pure _
      · exact Read.keeps_pure _
  · split
    · exact (keeps_standard header opcode).bind ends
    · exact ends _

/-- A read that never yields a special instruction. -/
def Plain (read : Read Instruction) : Prop :=
  ∀ before instruction after, read before = .ok instruction after →
    ∀ opcode, instruction ≠ .special opcode

/-- An instruction that is not special is told as it is. -/
theorem plain_pure {instruction : Instruction} (plain : ∀ opcode, instruction ≠ .special opcode) :
    Plain (pure instruction) := by
  intro before result after done
  cases done
  exact plain

/-- Two reads in a row yield what the second one does. -/
theorem plain_bind {α : Type} {read : Read α} {use : α → Read Instruction}
    (plain : ∀ value, Plain (use value)) : Plain (read >>= use) := by
  intro before result after done
  obtain ⟨value, middle, _, late⟩ := Read.bind_eq_ok done
  exact plain value middle result after late

/-- A standard opcode is no special one. -/
theorem plain_standard (header : Header) (opcode : UInt8) :
    Plain (LineProgram.standard header opcode) := by
  unfold LineProgram.standard
  -- What is read of operands does not matter, only which instruction they end up in.
  split
  · exact plain_pure fun _ => Instruction.noConfusion
  · exact plain_bind fun _ => plain_pure fun _ => Instruction.noConfusion
  · exact plain_bind fun _ => plain_pure fun _ => Instruction.noConfusion
  · exact plain_bind fun _ => plain_pure fun _ => Instruction.noConfusion
  · exact plain_bind fun _ => plain_pure fun _ => Instruction.noConfusion
  · exact plain_pure fun _ => Instruction.noConfusion
  · exact plain_pure fun _ => Instruction.noConfusion
  · exact plain_pure fun _ => Instruction.noConfusion
  · exact plain_bind fun _ => plain_pure fun _ => Instruction.noConfusion
  · exact plain_bind fun _ => plain_pure fun _ => Instruction.noConfusion

/-- An extended opcode is no special one. -/
theorem plain_extendedInstruction (opcode : UInt8) (operandLength : Nat) :
    Plain (LineProgram.extendedInstruction opcode operandLength) := by
  unfold LineProgram.extendedInstruction
  split
  · exact plain_pure fun _ => Instruction.noConfusion
  · exact plain_bind fun _ => plain_pure fun _ => Instruction.noConfusion
  · exact plain_pure fun _ => Instruction.noConfusion

/-- What is read behind a length is no special instruction. -/
theorem extended_ne_special {before after : Cursor} {result : Fetched}
    (done : LineProgram.extended before = .ok result after) (opcode : UInt8) :
    result.instruction ≠ .special opcode := by
  obtain ⟨length, middle, _, rest⟩ := Read.bind_eq_ok done
  split at rest
  · cases rest
    exact Instruction.noConfusion
  · obtain ⟨second, behind, _, rest⟩ := Read.bind_eq_ok rest
    obtain ⟨start, last, _, rest⟩ := Read.bind_eq_ok rest
    obtain ⟨instruction, _, read, told⟩ := Read.bind_eq_ok rest
    cases told
    exact plain_extendedInstruction second _ last instruction _ read opcode

/-- A special opcode that is fetched is no less than the first one. -/
theorem le_of_fetch_special {header : Header} {before after : Cursor} {result : Fetched}
    (done : LineProgram.fetch header before = .ok result after) {opcode : UInt8}
    (special : result.instruction = .special opcode) :
    header.opcodeBase.toNat ≤ opcode.toNat := by
  obtain ⟨first, middle, _, rest⟩ := Read.bind_eq_ok done
  -- Only an opcode that is neither zero nor below the first special one is fetched as special.
  split at rest
  · exact absurd special (extended_ne_special rest opcode)
  · split at rest
    · obtain ⟨instruction, last, read, told⟩ := Read.bind_eq_ok rest
      cases told
      exact absurd special (plain_standard header first _ _ _ read opcode)
    · rename_i above
      cases rest
      obtain rfl := Instruction.special.inj special
      exact UInt8.le_iff_toNat_le.mp (UInt8.not_lt.mp above)

/-- An instruction is fetched without a trap. -/
theorem follows_fetch (header : Header) :
    (fetch header).Follows (LineProgram.fetch header >>= fun all => pure (named all)) := by
  rw [fetch, LineProgram.fetch, bind_assoc]
  refine follows_byte.bind fun opcode => ?_
  split
  · exact follows_extended
  · split
    · rw [bind_assoc]
      exact (follows_standard header opcode).bind fun instruction => follows_fetched instruction
    · exact follows_fetched _

end Fetch

section Machine

variable {ε : Type} {machine : Machine} {header : Header}

/-- Emits the row that the registers show, and counts it. -/
def emit (machine : Machine) (header : Header) : Run ε Machine :=
  match machine.registers.row? header with
  | some row => do
    let _ ← Run.counted (machine.rows.size + 1)
    return { machine with rows := machine.rows.push row }
  | none => return machine

/-- Emits a row, after which a basic block no longer starts. -/
def emitPlain (machine : Machine) (header : Header) : Run ε Machine := do
  let emitted ← emit machine header
  return { emitted with registers := { emitted.registers with basicBlock := false } }

/-- The address advance of a special opcode in bytes, and how far its line advance lies above the
least one. -/
def advances (header : Header) (opcode : UInt8) : Run ε (Nat × Nat) := do
  let adjusted ← Run.difference opcode.toNat header.opcodeBase.toNat
  let (count, above) ← Run.divided adjusted header.lineRange.toNat
  let step ← Run.counted (count * header.minInstructionLength.toNat)
  return (step, above)

/-- Advances the address as the greatest special opcode does. -/
def advanceConstant (machine : Machine) (header : Header) : Run ε Machine := do
  let (step, _) ← advances header 255
  return machine.withRegisters fun registers =>
    { registers with address := registers.address + .ofNat step }

/-- Advances address and line together, and emits a row. -/
def special (machine : Machine) (header : Header) (opcode : UInt8) : Run ε Machine := do
  let (step, above) ← advances header opcode
  let delta ← Run.signed (header.lineBase.toInt + above)
  let moved := machine.withRegisters fun registers =>
    { registers with
      address := registers.address + .ofNat step
      line := registers.line + .ofInt delta }
  emitPlain moved header

/-- Emits the last row of a sequence, behind which the registers start anew. -/
def endSequence (machine : Machine) (header : Header) : Run ε Machine := do
  let ended := machine.withRegisters fun registers => { registers with endSequence := true }
  return (← emit ended header).withRegisters fun _ => .initial header

/-- One instruction. -/
def execute (machine : Machine) (header : Header) : Instruction → Run ε Machine
  | .copy => emitPlain machine header
  | .advanceConstant => advanceConstant machine header
  | .special opcode => special machine header opcode
  | .endSequence => endSequence machine header
  -- What the others change wraps around.
  | other => return machine.execute header other

/-- A row is counted without a trap while there are few enough. -/
theorem emit_eq_pure (few : machine.rows.size + 1 < UInt64.size) :
    emit machine header = (pure (machine.emit header) : Run ε Machine) := by
  rw [emit, Machine.emit]
  cases machine.registers.row? header with
  | none => rfl
  | some row =>
    dsimp only
    rw [Run.counted_eq_pure few, pure_bind]

/-- A plain row is counted without a trap while there are few enough. -/
theorem emitPlain_eq_pure (few : machine.rows.size + 1 < UInt64.size) :
    emitPlain machine header = (pure (machine.emitPlain header) : Run ε Machine) := by
  rw [emitPlain, emit_eq_pure few, pure_bind, Machine.emitPlain]

/-- The advances of a special opcode are computed without a trap, since it is no less than the
first one and the line range is not zero. -/
theorem advances_eq_pure {opcode : UInt8} (divisible : header.lineRange ≠ 0)
    (special : header.opcodeBase.toNat ≤ opcode.toNat) :
    advances header opcode = (pure
      ((opcode.toNat - header.opcodeBase.toNat) / header.lineRange.toNat *
          header.minInstructionLength.toNat,
        (opcode.toNat - header.opcodeBase.toNat) % header.lineRange.toNat) :
      Run ε (Nat × Nat)) := by
  have nonzero : header.lineRange.toNat ≠ 0 := fun zero => divisible (UInt8.toNat_inj.mp zero)
  -- Quotient and factor are bytes.
  have fits : (opcode.toNat - header.opcodeBase.toNat) / header.lineRange.toNat *
      header.minInstructionLength.toNat < UInt64.size := by
    have quotient := Nat.div_le_self (opcode.toNat - header.opcodeBase.toNat) header.lineRange.toNat
    have opcode := opcode.toNat_lt
    have factor := header.minInstructionLength.toNat_lt
    calc _ ≤ 255 * 255 := Nat.mul_le_mul (by omega) (by omega)
      _ < UInt64.size := by decide
  rw [advances, Run.difference_eq_pure special, pure_bind, Run.divided_eq_pure nonzero, pure_bind]
  dsimp only
  rw [Run.counted_eq_pure fits, pure_bind]

/-- The address advance in bytes is the one in instructions, times their length. -/
theorem ofNat_step {opcode : UInt8} (special : header.opcodeBase.toNat ≤ opcode.toNat) :
    (.ofNat ((opcode.toNat - header.opcodeBase.toNat) / header.lineRange.toNat *
        header.minInstructionLength.toNat) : UInt64) =
      Machine.addressAdvance header opcode * header.minInstructionLength.toUInt64 := by
  rw [← toNat_addressAdvance header special, UInt64.ofNat_mul, UInt64.ofNat_toNat,
    UInt64.ofNat_uInt8ToNat]

/-- The line advance is the sum that was watched. -/
theorem ofInt_delta {opcode : UInt8} (special : header.opcodeBase.toNat ≤ opcode.toNat) :
    (.ofInt (header.lineBase.toInt +
        ((opcode.toNat - header.opcodeBase.toNat) % header.lineRange.toNat : Nat)) : Int64) =
      Machine.lineAdvance header opcode := by
  rw [← Int64.toInt_inj, toInt_lineAdvance header special, Int64.toInt_ofInt]
  rfl

/-- The address advances without a trap, since no first special opcode is above the greatest. -/
theorem advanceConstant_eq_pure (divisible : header.lineRange ≠ 0) :
    advanceConstant machine header =
      (pure (machine.execute header .advanceConstant) : Run ε Machine) := by
  have greatest : header.opcodeBase.toNat ≤ (255 : UInt8).toNat :=
    Nat.le_of_lt_succ header.opcodeBase.toNat_lt
  rw [advanceConstant, advances_eq_pure divisible greatest, pure_bind]
  dsimp only
  rw [ofNat_step greatest]
  rfl

/-- The advances of a special opcode that is no less than the first are made without a trap. -/
theorem special_eq_emitPlain {opcode : UInt8} (divisible : header.lineRange ≠ 0)
    (above : header.opcodeBase.toNat ≤ opcode.toNat) :
    special machine header opcode =
      (emitPlain (machine.withRegisters fun registers =>
        { registers.advance header (Machine.addressAdvance header opcode) with
          line := registers.line + Machine.lineAdvance header opcode }) header :
        Run ε Machine) := by
  have rest : (opcode.toNat - header.opcodeBase.toNat) % header.lineRange.toNat < 256 :=
    Nat.lt_of_le_of_lt ((Nat.mod_le _ _).trans (Nat.sub_le _ _)) opcode.toNat_lt
  have least := header.lineBase.le_toInt
  have most := header.lineBase.toInt_lt
  have lowest : Int64.minValue.toInt = -0x8000000000000000 := by decide
  have highest : Int64.maxValue.toInt = 0x7FFFFFFFFFFFFFFF := by decide
  rw [special, advances_eq_pure divisible above, pure_bind]
  dsimp only
  rw [Run.signed_eq_pure (by omega) (by omega), pure_bind, ofNat_step above, ofInt_delta above]
  rfl

/-- A special opcode is executed without a trap if it is no less than the first. -/
theorem special_eq_pure {opcode : UInt8} (divisible : header.lineRange ≠ 0)
    (above : header.opcodeBase.toNat ≤ opcode.toNat)
    (few : machine.rows.size + 1 < UInt64.size) :
    special machine header opcode =
      (pure (machine.execute header (.special opcode)) : Run ε Machine) := by
  rw [special_eq_emitPlain divisible above]
  exact emitPlain_eq_pure few

/-- A sequence is ended without a trap while rows are few. -/
theorem endSequence_eq_pure (few : machine.rows.size + 1 < UInt64.size) :
    endSequence machine header =
      (pure (machine.execute header .endSequence) : Run ε Machine) := by
  have counted : emit (machine.withRegisters fun registers =>
      { registers with endSequence := true }) header = (pure _ : Run ε Machine) :=
    emit_eq_pure few
  rw [endSequence, counted, pure_bind]
  rfl

/-- An instruction is executed without a trap: a special one is no less than the first, and rows are
few. -/
theorem execute_eq_pure {instruction : Instruction} (divisible : header.lineRange ≠ 0)
    (above : ∀ opcode, instruction = .special opcode → header.opcodeBase.toNat ≤ opcode.toNat)
    (few : machine.rows.size + 1 < UInt64.size) :
    execute machine header instruction =
      (pure (machine.execute header instruction) : Run ε Machine) := by
  cases instruction with
  | copy => exact emitPlain_eq_pure few
  | advanceConstant => exact advanceConstant_eq_pure divisible
  | special opcode => exact special_eq_pure divisible (above opcode rfl) few
  | endSequence => exact endSequence_eq_pure few
  | _ => rfl

/-- One round of a program: the machine behind the next instruction, and the cursor there or the
fault that ends the program. -/
def step (header : Header) (machine : Machine) (cursor : Cursor) :
    Run ε (Machine × Except Truncated Cursor) := do
  match ← Run.attempt (fetch header cursor) with
  | .error fault => return (machine, .error fault)
  | .ok (fetched, after) =>
    let machine ← execute machine header fetched.instruction
    match ← Run.attempt (seek fetched.next after) with
    | .error fault => return (machine, .error fault)
    | .ok (_, reached) =>
      let _ ← Run.onward cursor.position reached.position cursor.data.size
      return (machine, .ok reached)

/-- Instructions are executed up to the end of the bytes or to a fault, for at most some rounds. -/
def run (header : Header) : Nat → Machine → Cursor → Run ε (Machine × Option Truncated)
  | 0, _, _ => Run.trap .rounds
  | rounds + 1, machine, cursor => do
    let ahead ← Run.difference cursor.data.size cursor.position
    if ahead = 0 then return (machine, none)
    match ← step header machine cursor with
    | (machine, .error fault) => return (machine, some fault)
    | (machine, .ok after) => run header rounds machine after

/-- The outcome of a unit whose body starts at the cursor. -/
def decodeUnit (format : Format) (body : Cursor) : Run ε Outcome := do
  match ← Run.attempt (Watched.header format body) with
  | .error fault => return .headless fault
  | .ok (.error reason, _) => return .skipped reason
  | .ok (.ok header, _) =>
    match ← Run.attempt (seek header.programStart (.ofBytes body.data)) with
    | .error fault => return .headless fault
    | .ok (_, start) =>
      let (machine, fault?) ← run header (start.remaining + 1) (.initial header) start
      return .decoded ⟨header, machine.rows, fault?⟩

/-- Emitting adds one row at most. -/
theorem size_emit_le (machine : Machine) (header : Header) :
    (machine.emit header).rows.size ≤ machine.rows.size + 1 := by
  rw [Machine.emit]
  split
  · rw [Array.size_push]
  · exact Nat.le_succ _

/-- An instruction adds one row at most. -/
theorem size_execute_le (machine : Machine) (header : Header) (instruction : Instruction) :
    (machine.execute header instruction).rows.size ≤ machine.rows.size + 1 := by
  cases instruction with
  | copy => exact size_emit_le machine header
  | special opcode => exact size_emit_le (machine.withRegisters _) header
  | endSequence => exact size_emit_le (machine.withRegisters _) header
  | _ => exact Nat.le_succ _

variable {cursor : Cursor}

/-- A round of a program that is not at its end is run without a trap, and does what the program
does. -/
theorem step_eq_pure (divisible : header.lineRange ≠ 0) (bounded : cursor.data.size < greatestOffset)
    (more : cursor.position < cursor.data.size) (few : machine.rows.size + 1 < UInt64.size) :
    step header machine cursor = (pure
      (match LineProgram.fetch header cursor with
      | .error fault _ => (machine, .error fault)
      | .ok fetched _ =>
        (machine.execute header fetched.instruction,
          if fetched.next ≤ cursor.data.size then .ok { cursor with position := fetched.next }
          else .error ⟨min fetched.next greatestOffset⟩)) :
      Run ε (Machine × Except Truncated Cursor)) := by
  have fits : cursor.data.size < UInt64.size := Nat.lt_of_lt_of_le bounded (Nat.sub_le _ _)
  have sound : cursor.Sound := ⟨Nat.le_of_lt more, fits⟩
  cases done : LineProgram.fetch header cursor with
  | error fault after =>
    -- Naming the next place is no fault of its own.
    have failed : (LineProgram.fetch header >>= fun all => pure (named all)) cursor =
        .error fault after := by
      simp only [Bind.bind, EStateM.bind, done]
    rw [step, (follows_fetch header).attempt_of_error sound failed, pure_bind]
  | ok fetched after =>
    have read : (LineProgram.fetch header >>= fun all => pure (named all)) cursor =
      .ok (named fetched) after := Read.bind_of_ok done
    have further := keeps_fetch header cursor fetched after done
    have inside : after.Sound := ⟨further.inside sound.inside, further.data ▸ fits⟩
    have executed : execute machine header fetched.instruction =
        (pure (machine.execute header fetched.instruction) : Run ε Machine) :=
      execute_eq_pure divisible (fun opcode => le_of_fetch_special done) few
    rw [step, (follows_fetch header).attempt_of_ok sound read, pure_bind]
    dsimp only [named]
    rw [executed, pure_bind]
    -- A place that cannot be named is past the end of the bytes.
    by_cases room : fetched.next ≤ cursor.data.size
    · have nameable : min fetched.next greatestOffset = fetched.next := by omega
      have sought : Read.seek fetched.next after = .ok () { cursor with position := fetched.next } := by
        rw [Read.seek, further.data, if_pos room, ← further.data]
      rw [nameable, (follows_seek _).attempt_of_ok inside sought, pure_bind, if_pos room]
      dsimp only
      rw [Run.onward_eq_pure (position_lt_next done) room, pure_bind]
    · have past : ¬ min fetched.next greatestOffset ≤ after.data.size := by
        rw [further.data]
        omega
      rw [(follows_seek _).attempt_of_error inside (if_neg past), pure_bind, if_neg room]

/-- A round of a program goes forward inside the bytes, unless it ends the program. -/
theorem step_forward (divisible : header.lineRange ≠ 0) (bounded : cursor.data.size < greatestOffset)
    (more : cursor.position < cursor.data.size) (few : machine.rows.size + 1 < UInt64.size) :
    ∃ after result, step header machine cursor = (pure (after, result) : Run ε _) ∧
      ∀ next, result = .ok next → next.data = cursor.data ∧
        cursor.position < next.position ∧ next.position ≤ cursor.data.size := by
  refine ⟨_, _, step_eq_pure divisible bounded more few, fun next moved => ?_⟩
  cases done : LineProgram.fetch header cursor with
  | error fault _ =>
    rw [done] at moved
    contradiction
  | ok fetched _ =>
    rw [done] at moved
    dsimp only at moved
    split at moved
    · rename_i room
      cases moved
      exact ⟨rfl, position_lt_next done, room⟩
    · contradiction

/-- A program is run without a trap, in no more rounds than it has bytes and one more. -/
theorem run_eq_pure (divisible : header.lineRange ≠ 0) (rounds : Nat)
    (bounded : cursor.data.size < greatestOffset) (inside : cursor.position ≤ cursor.data.size)
    (enough : cursor.remaining < rounds) (few : machine.rows.size ≤ cursor.position) :
    run header rounds machine cursor = (pure (machine.run header cursor) : Run ε _) := by
  -- Neither the rounds left nor the bytes passed fall behind, as each instruction takes a byte.
  induction rounds generalizing machine cursor with
  | zero => contradiction
  | succ rounds ih =>
    rw [run, Run.difference_eq_pure inside, pure_bind, Machine.run_eq]
    by_cases ended : cursor.data.size - cursor.position = 0
    · have stops : cursor.atEnd = true := by
        simp only [Cursor.atEnd, decide_eq_true_eq]
        omega
      rw [if_pos ended, if_pos stops]
    · have more : cursor.position < cursor.data.size := by omega
      -- Each row so far took a byte or more.
      have counted : machine.rows.size + 1 < UInt64.size := by
        simp only [greatestOffset] at bounded
        omega
      have goes : ¬ cursor.atEnd = true := by
        simp only [Cursor.atEnd, decide_eq_true_eq]
        omega
      rw [if_neg ended, if_neg goes, step_eq_pure divisible bounded more counted, pure_bind]
      cases done : LineProgram.fetch header cursor with
      | error fault after => rfl
      | ok fetched after =>
        have later := position_lt_next done
        have rows := size_execute_le machine header fetched.instruction
        dsimp only
        by_cases room : fetched.next ≤ cursor.data.size
        · rw [if_pos room, if_pos room]
          have fewer : ({ cursor with position := fetched.next } : Cursor).remaining < rounds := by
            simp only [Cursor.remaining] at enough ⊢
            omega
          exact @ih _ { cursor with position := fetched.next } bounded room fewer (by simp only; omega)
        · rw [if_neg room, if_neg room]

/-- A length makes a step. -/
theorem keeps_length (format : Format) : Read.Keeps format.length := by
  cases format with
  | narrow =>
    exact ((Read.keeps_unsigned 4).bind fun _ => Read.keeps_pure _).bind fun _ => Read.keeps_pure _
  | wide =>
    exact ((Read.keeps_unsigned 8).bind fun _ => Read.keeps_pure _).bind fun _ => Read.keeps_pure _

/-- The line range of a unit that is not passed over is not zero, and its program starts where it was
told to. -/
theorem told_of_readFields {version : UInt16} {programStart : Nat} {before after : Cursor}
    (done : Header.readFields version programStart before = .ok (.ok header) after) :
    header.lineRange ≠ 0 ∧ header.programStart = programStart := by
  -- The line range is the fifth of the fields, and is checked behind two more reads.
  obtain ⟨_, _, _, done⟩ := Read.bind_eq_ok done
  obtain ⟨_, _, _, done⟩ := Read.bind_eq_ok done
  obtain ⟨_, _, _, done⟩ := Read.bind_eq_ok done
  obtain ⟨_, _, _, done⟩ := Read.bind_eq_ok done
  obtain ⟨lineRange, _, _, done⟩ := Read.bind_eq_ok done
  obtain ⟨_, _, _, done⟩ := Read.bind_eq_ok done
  obtain ⟨_, _, _, done⟩ := Read.bind_eq_ok done
  split at done
  · cases done
  · rename_i divisible
    obtain ⟨_, _, _, told⟩ := Read.bind_eq_ok done
    cases told
    exact ⟨divisible, rfl⟩

/-- The program of a unit that is not passed over starts inside the unit. -/
theorem told_of_read {format : Format} {before after : Cursor}
    (done : Header.read format before = .ok (.ok header) after) :
    header.lineRange ≠ 0 ∧ header.programStart ≤ before.data.size := by
  obtain ⟨version, second, read, done⟩ := Read.bind_eq_ok done
  split at done
  · cases done
  · obtain ⟨programStart, third, placed, done⟩ := Read.bind_eq_ok done
    obtain ⟨divisible, behindLength⟩ := told_of_readFields done
    obtain ⟨length, behind, spelled, placed⟩ := Read.bind_eq_ok placed
    obtain ⟨start, _, told, placed⟩ := Read.bind_eq_ok placed
    rw [Read.position_eq] at told
    cases told
    obtain ⟨cursor, _, got, placed⟩ := Read.bind_eq_ok placed
    rw [Read.get_eq] at got
    cases got
    -- No read leaves the bytes that the header is in.
    have first := (Read.keeps_word16 before version second read).data
    have next := (keeps_length format second length behind spelled).data
    split at placed
    · rename_i inside
      cases placed
      rw [next, first] at inside
      exact ⟨divisible, behindLength.trans_le inside⟩
    · contradiction

/-- A unit is decoded without a trap. -/
theorem decodeUnit_eq_pure (format : Format) {body : Cursor}
    (bounded : body.data.size < greatestOffset) (inside : body.position ≤ body.data.size) :
    decodeUnit format body = (pure (LineProgram.decodeUnit format body) : Run ε Outcome) := by
  have fits : body.data.size < UInt64.size := Nat.lt_of_lt_of_le bounded (Nat.sub_le _ _)
  have sound : body.Sound := ⟨inside, fits⟩
  rw [decodeUnit, LineProgram.decodeUnit]
  cases done : Header.read format body with
  | error fault after => rw [(follows_header format).attempt_of_error sound done, pure_bind]
  | ok told after =>
    rw [(follows_header format).attempt_of_ok sound done, pure_bind]
    cases told with
    | error reason => rfl
    | ok header =>
      obtain ⟨divisible, start⟩ := told_of_read done
      have sought : Read.seek header.programStart (.ofBytes body.data) =
        .ok () ⟨body.data, header.programStart⟩ := if_pos start
      have finished : run header ((⟨body.data, header.programStart⟩ : Cursor).remaining + 1)
          (.initial header) ⟨body.data, header.programStart⟩ = (pure _ : Run ε _) :=
        run_eq_pure divisible _ bounded start (Nat.lt_succ_self _) (Nat.zero_le _)
      have first : (Cursor.ofBytes body.data).Sound := ⟨Nat.zero_le _, fits⟩
      dsimp only
      rw [(follows_seek _).attempt_of_ok first sought, pure_bind]
      dsimp only
      rw [finished, pure_bind]

end Machine

end Footprint.LineProgram.Watched
