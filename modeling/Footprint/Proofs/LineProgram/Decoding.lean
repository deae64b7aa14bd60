import Footprint.Proofs.LineProgram.Reference

/-! The bytes of an assembled unit decode to the header and the instructions they were written
for. -/

namespace Footprint.LineProgram

section Items

variable {α β : Type} {item : Read α} {moves : Read.Moves item} {write : β → List UInt8}
  {value : β → α}

/-- Items that do not start with a zero byte read back up to the zero behind them. -/
theorem reads_itemsUntilZero (entries : List β)
    (each : ∀ entry ∈ entries, Reads item (write entry) (value entry))
    (starts : ∀ entry ∈ entries, ∃ byte rest, write entry = byte :: rest ∧ byte ≠ 0)
    (before : Array α) :
    Reads (itemsUntilZero item moves before) (entries.flatMap write ++ [0])
      (before ++ (entries.map value).toArray) := by
  -- An item that was read joins those before it, and the others follow.
  induction entries generalizing before with
  | nil =>
    -- The zero is the next byte, and is passed.
    intro behind ahead
    have moved := Cursor.between_advance behind [0] ahead
    simp only [List.singleton_append, List.length_singleton] at moved
    rw [itemsUntilZero_eq]
    simp [Cursor.between_peek?, moved]
  | cons entry entries ih =>
    intro behind ahead
    obtain ⟨byte, rest, spelled, nonzero⟩ := starts entry List.mem_cons_self
    have done := each entry List.mem_cons_self behind (entries.flatMap write ++ [0] ++ ahead)
    have others := ih (fun other member => each other (List.mem_cons_of_mem _ member))
      (fun other member => starts other (List.mem_cons_of_mem _ member))
      (before.push (value entry)) (behind ++ write entry) ahead
    have next : (Cursor.between behind
        (write entry ++ (entries.flatMap write ++ [0] ++ ahead))).peek? = some byte := by
      rw [spelled, List.cons_append, Cursor.between_peek?]
    rw [itemsUntilZero_eq, List.flatMap_cons, List.append_assoc (write entry),
      List.append_assoc (write entry), next]
    dsimp only
    rw [if_neg nonzero, done]
    dsimp only
    rw [others]
    simp

end Items

/-- A name starts with a byte other than zero. -/
theorem Name.starts (name : Name) : ∃ byte rest, name.bytes = byte :: rest ∧ byte ≠ 0 := by
  -- The first byte is one of the text's, which are not zero.
  have unbroken := Text.Utf8.zero_notMem_encode name.unbroken
  rw [Name.bytes]
  cases spelled : Text.Utf8.encode name.text with
  | nil => exact absurd spelled (Text.Utf8.encode_ne_nil name.nonempty)
  | cons byte rest =>
    refine ⟨byte, rest ++ [0], rfl, ?_⟩
    rintro rfl
    apply unbroken
    rw [spelled]
    exact List.mem_cons_self

/-- A name reads back. -/
theorem reads_name (name : Name) : Reads Read.text name.bytes name.text :=
  reads_text name.unbroken

variable {draft : Draft}

/-- The path of a file is joined from its name and its directory. -/
theorem joined_directories (entry : FileEntry) :
    joined (draft.directories.map Name.text).toArray entry.directory entry.name.text =
      draft.path entry := by
  rw [joined, Draft.path]
  -- Directories count from one, and a number that names none leaves the name alone.
  cases counted : entry.directory.toNat with
  | zero =>
    have zero : entry.directory = 0 := UInt64.toNat_inj.mp counted
    rw [if_pos zero]
  | succ count =>
    have positive : entry.directory ≠ 0 := by
      intro zero
      rw [zero] at counted
      contradiction
    rw [if_neg positive]
    simp only [Nat.add_sub_cancel, List.getElem?_toArray, List.getElem?_map]
    cases draft.directories[count]? with
    | none => rfl
    | some directory => rfl

/-- A file reads back as its path. -/
theorem reads_file (entry : FileEntry) :
    Reads (file (draft.directories.map Name.text).toArray) entry.bytes (draft.path entry) := by
  -- The time and the length are read and not kept.
  have length := (reads_unsignedLeb entry.length).map fun _ =>
    joined (draft.directories.map Name.text).toArray entry.directory entry.name.text
  rw [← joined_directories]
  exact (reads_name entry.name).bind ((reads_unsignedLeb entry.directory).bind
    ((reads_unsignedLeb entry.time).bind length))

/-- The directories and the files read back. -/
theorem reads_fileTable :
    Reads fileTable
      (draft.directories.flatMap Name.bytes ++ [0] ++ (draft.files.flatMap FileEntry.bytes ++ [0]))
      ((draft.directories.map Name.text).toArray, (draft.files.map draft.path).toArray) := by
  -- Both lists end with a zero, and the files are joined with the directories before them.
  have directories : Reads (itemsUntilZero Read.text Read.moves_text #[])
      (draft.directories.flatMap Name.bytes ++ [0])
      (#[] ++ (draft.directories.map Name.text).toArray) :=
    reads_itemsUntilZero draft.directories (fun name _ => reads_name name)
      (fun name _ => name.starts) #[]
  rw [Array.empty_append] at directories
  have files : Reads (itemsUntilZero (file (draft.directories.map Name.text).toArray)
        (moves_file _) #[])
      (draft.files.flatMap FileEntry.bytes ++ [0])
      (#[] ++ (draft.files.map draft.path).toArray) := by
    refine reads_itemsUntilZero draft.files (fun entry _ => reads_file entry) ?_ #[]
    -- A file starts with its name.
    intro entry _
    obtain ⟨byte, rest, spelled, nonzero⟩ := entry.name.starts
    exact ⟨byte, _, by rw [FileEntry.bytes, spelled, List.cons_append], nonzero⟩
  rw [Array.empty_append] at files
  exact directories.bind (files.map fun files => (_, files))

/-- The greatest number of operations reads back where it is written. -/
theorem reads_maxOperations :
    Reads (readMaxOperations draft.version) draft.maxOperationsBytes
      (if 4 ≤ draft.version then draft.maxOperations else 1) := by
  rw [readMaxOperations, Draft.maxOperationsBytes]
  split
  · exact reads_byte draft.maxOperations
  · exact reads_pure 1

/-- The operand counts read back. -/
theorem reads_operandCounts (opcodes : draft.operandCounts.length < 255) :
    Reads (readOperandCounts draft.opcodeBase) draft.operandCounts
      draft.operandCounts.toArray := by
  -- There is a count for each opcode from one up to the first special one.
  have each : Reads (Read.several Read.byte draft.operandCounts.length #[])
      (draft.operandCounts.flatMap fun count => [count])
      (#[] ++ draft.operandCounts.toArray) :=
    reads_several draft.operandCounts (fun count _ => reads_byte count) #[]
  rw [Array.empty_append] at each
  rw [readOperandCounts, toNat_opcodeBase opcodes, Nat.add_sub_cancel]
  simpa using each

/-- The fields behind a header's length read back. -/
theorem reads_fields (opcodes : draft.operandCounts.length < 255) (divisible : draft.lineRange ≠ 0)
    (programStart : Nat) :
    Reads (Header.readFields draft.version programStart) draft.fieldBytes
      (.ok (draft.header programStart)) := by
  rw [Header.readFields, Draft.fieldBytes]
  -- The fields are read in the order in which they were written.
  apply (reads_byte draft.minInstructionLength).bind
  apply reads_maxOperations.bind
  apply (reads_byte draft.defaultIsStmt).bind
  apply (reads_signedByte draft.lineBase).bind
  apply (reads_byte draft.lineRange).bind
  apply (reads_byte draft.opcodeBase).bind
  apply (reads_operandCounts opcodes).bind
  rw [if_neg divisible]
  exact reads_fileTable.map fun table => Except.ok
    { draft.header programStart with directories := table.1, files := table.2 }

/-- A length behind a unit's version reads back. -/
theorem reads_offset {format : Format} {length : Nat} (short : format.Spells length) :
    Reads format.length (format.offsetBytes length) length := by
  cases format with
  | narrow =>
    have fits : length < 2 ^ 32 := Nat.lt_trans short (by decide)
    have reads := (reads_word32 (.ofNat length)).map UInt32.toNat
    rwa [UInt32.toNat_ofNat', Nat.mod_eq_of_lt fits] at reads
  | wide =>
    have reads := (reads_word64 (.ofNat length)).map UInt64.toNat
    rwa [UInt64.toNat_ofNat', Nat.mod_eq_of_lt short] at reads

/-- The program starts as far behind a length as the length says, if the bytes go that far. -/
theorem readProgramStart_between {format : Format} {length : Nat} (short : format.Spells length)
    (behind : List UInt8) {ahead : List UInt8} (inside : length ≤ ahead.length) :
    readProgramStart format (.between behind (format.offsetBytes length ++ ahead)) =
      .ok ((behind ++ format.offsetBytes length).length + length)
        (.between (behind ++ format.offsetBytes length) ahead) := by
  -- The length counts from behind its own bytes.
  have bounded : (Cursor.between (behind ++ format.offsetBytes length) ahead).position + length ≤
      (Cursor.between (behind ++ format.offsetBytes length) ahead).data.size := by
    simp only [Cursor.between_position, Cursor.between_data, List.size_toArray, List.length_append]
    omega
  rw [readProgramStart, Read.bind_of_ok (reads_offset short behind ahead),
    Read.bind_of_ok (Read.position_eq _)]
  rw [Read.bind_of_ok (Read.get_eq _), if_pos bounded]
  rfl

/-- A length is spelled in a format that spells a greater one. -/
theorem Format.Spells.mono {format : Format} {length greater : Nat} (short : format.Spells greater)
    (within : length ≤ greater) : format.Spells length := by
  cases format with
  | narrow => exact Nat.lt_of_le_of_lt within short
  | wide => exact Nat.lt_of_le_of_lt within short

/-- The header of an assembled unit reads back, and its program starts behind it. -/
theorem header_between (assembly : Assembly) (behind : List UInt8) :
    ∃ after, Header.read assembly.format (.between behind assembly.body) =
      .ok (.ok (assembly.header (behind ++ assembly.headBytes).length)) after := by
  obtain ⟨least, greatest⟩ := assembly.supported
  -- No version between two and four is refused.
  have supported : ¬ (assembly.version < 2 ∨ 4 < assembly.version) := by
    rintro (early | late)
    · exact absurd (UInt16.lt_of_lt_of_le early least) (UInt16.lt_irrefl _)
    · exact absurd (UInt16.lt_of_lt_of_le late greatest) (UInt16.lt_irrefl _)
  -- The bytes that the header's length counts are some of those that the unit's length counts.
  have short : assembly.format.Spells (assembly.fieldBytes ++ assembly.padding).length := by
    apply assembly.short.mono
    simp only [Draft.body, Draft.headBytes, List.length_append]
    omega
  let fields := assembly.fieldBytes ++ (assembly.padding ++ assembly.programBytes)
  have inside : (assembly.fieldBytes ++ assembly.padding).length ≤ fields.length := by
    simp only [fields, List.length_append]
    omega
  -- The version is read first, then the place of the program, and then the fields.
  have version := reads_word16 assembly.version behind
    (assembly.format.offsetBytes (assembly.fieldBytes ++ assembly.padding).length ++ fields)
  have placed := readProgramStart_between short
    (behind ++ Bytes.digits 2 assembly.version.toNat) inside
  obtain ⟨after, told⟩ : ∃ after, Header.readFields assembly.version
      (behind ++ assembly.headBytes).length (.between (behind ++
        Bytes.digits 2 assembly.version.toNat ++
        assembly.format.offsetBytes (assembly.fieldBytes ++ assembly.padding).length) fields) =
      .ok (.ok (assembly.header (behind ++ assembly.headBytes).length)) after :=
    ⟨_, reads_fields assembly.opcodes assembly.divisible _ _ _⟩
  have place : (behind ++ Bytes.digits 2 assembly.version.toNat ++
        assembly.format.offsetBytes (assembly.fieldBytes ++ assembly.padding).length).length +
        (assembly.fieldBytes ++ assembly.padding).length =
      (behind ++ assembly.headBytes).length := by
    simp only [Draft.headBytes, List.length_append]
    omega
  have spelled : assembly.body = Bytes.digits 2 assembly.version.toNat ++
      (assembly.format.offsetBytes (assembly.fieldBytes ++ assembly.padding).length ++ fields) := by
    simp only [Draft.body, Draft.headBytes, fields, List.append_assoc]
  rw [place] at placed
  refine ⟨after, ?_⟩
  rw [Header.read, spelled, Read.bind_of_ok version, if_neg supported]
  exact (Read.bind_of_ok placed).trans told

/-- A fetch that yields an instruction over these bytes, and the place behind them. -/
def Fetches (read : Read Fetched) (bytes : List UInt8) (instruction : Instruction) : Prop :=
  ∀ behind ahead, ∃ after, read (.between behind (bytes ++ ahead)) =
    .ok ⟨instruction, (behind ++ bytes).length⟩ after

/-- An instruction that is already known is followed by what comes next. -/
theorem fetches_fetched (instruction : Instruction) :
    Fetches (fetched instruction) [] instruction := by
  intro behind ahead
  refine ⟨.between behind ahead, ?_⟩
  rw [List.append_nil]
  rfl

/-- A fetch behind a read takes the bytes of both. -/
theorem Fetches.behind {α : Type} {read : Read α} {use : α → Read Fetched}
    {first second : List UInt8} {value : α} {instruction : Instruction}
    (early : Reads read first value)
    (late : Fetches (use value) second instruction) :
    Fetches (read >>= use) (first ++ second) instruction := by
  intro behind ahead
  -- The bytes of the read stand behind the fetch, and those of the fetch ahead of the read.
  have start := early behind (second ++ ahead)
  obtain ⟨after, next⟩ := late (behind ++ first) ahead
  refine ⟨after, ?_⟩
  rw [List.append_assoc, Read.bind_of_ok start, next, List.append_assoc]

/-- A fetch that ends where its last byte was read takes the bytes of what it reads. -/
theorem fetches_behind {read : Read Instruction} {bytes : List UInt8} {instruction : Instruction}
    (reads : Reads read bytes instruction) :
    Fetches (read >>= fetched) bytes instruction := by
  have fetches := Fetches.behind reads (fetches_fetched instruction)
  rwa [List.append_nil] at fetches

/-- Numbers that are passed over take their bytes. -/
theorem reads_skipOperands (operands : List UInt64) :
    Reads (skipOperands operands.length)
      (operands.flatMap fun operand => Leb128.unsignedBytes operand.toNat) () := by
  -- One number is read and dropped, and the others follow.
  induction operands with
  | nil => exact reads_pure ()
  | cons operand operands ih => exact (reads_unsignedLeb operand).bind ih

variable {header : Header}

/-- The operands of a standard instruction read back. -/
theorem reads_standard (instruction : Standard) :
    Reads (standard header instruction.opcode) instruction.operandBytes
      (Operation.standard instruction).instruction := by
  cases instruction with
  | copy => exact reads_pure _
  | advancePc count => exact (reads_unsignedLeb count).map Instruction.advanceAddress
  | advanceLine count => exact (reads_signedLeb count).map Instruction.advanceLine
  | setFile number => exact (reads_unsignedLeb number).map Instruction.setFile
  | setColumn column => exact (reads_unsignedLeb column).map Instruction.setColumn
  | negateStmt => exact reads_pure _
  | setBasicBlock => exact reads_pure _
  | constAddPc => exact reads_pure _
  | fixedAdvancePc count => exact (reads_word16 count).map Instruction.advanceFixed

/-- The operands of a standard opcode without a meaning are passed over. -/
theorem reads_unknownStandard {opcode : UInt8} {operands : List UInt64} (unknown : 9 < opcode.toNat)
    (counted : header.operandCount opcode = operands.length) :
    Reads (standard header opcode)
      (operands.flatMap fun operand => Leb128.unsignedBytes operand.toNat) .none := by
  rw [standard]
  -- The opcodes that have a meaning go up to nine.
  split
  all_goals try omega
  rw [counted]
  exact (reads_skipOperands operands).map fun _ => Instruction.none

/-- The operand of an extended opcode that is not known is not read. -/
theorem extendedInstruction_unknown {opcode : UInt8} (unknown : opcode ≠ 1 ∧ opcode ≠ 2)
    (operandLength : Nat) : extendedInstruction opcode operandLength = pure .none := by
  rw [extendedInstruction]
  -- Only the opcodes one and two have a meaning here.
  split
  · rename_i one
    exact absurd (UInt8.toNat_inj.mp one) unknown.1
  · rename_i two
    exact absurd (UInt8.toNat_inj.mp two) unknown.2
  · rfl

/-- An instruction is followed by what stands behind its operand, however much of that it reads. -/
theorem fetches_operand {opcode : UInt8} {read operand : List UInt8} {instruction : Instruction}
    (within : read <+: operand)
    (reads : Reads (extendedInstruction opcode operand.length) read instruction) :
    Fetches (do
        let start ← Read.position
        return ⟨← extendedInstruction opcode operand.length, start + operand.length⟩)
      operand instruction := by
  intro behind ahead
  -- What is left unread of the operand is passed over with it.
  obtain ⟨unread, rfl⟩ := within
  have meant := reads behind (unread ++ ahead)
  rw [← List.append_assoc] at meant
  refine ⟨.between (behind ++ read) (unread ++ ahead), ?_⟩
  rw [Read.bind_of_ok (Read.position_eq _), Read.bind_of_ok meant,
    Cursor.between_position, ← List.length_append]
  rfl

/-- An extended instruction reads back if what its opcode asks for does. -/
theorem fetches_extended {opcode : UInt8} {read operand : List UInt8} {instruction : Instruction}
    (short : operand.length + 1 < 2 ^ 64) (within : read <+: operand)
    (reads : Reads (extendedInstruction opcode operand.length) read instruction) :
    Fetches (fetch header) (Operation.extendedBytes opcode operand) instruction := by
  -- The length counts the opcode too, so that it is not zero.
  let length : UInt64 := .ofNat (operand.length + 1)
  have number : length.toNat = operand.length + 1 := by
    rw [UInt64.toNat_ofNat', Nat.mod_eq_of_lt short]
  have positive : length ≠ 0 := by
    intro zero
    rw [zero] at number
    contradiction
  have told := reads_unsignedLeb length
  rw [number] at told
  -- A zero, the length and the opcode stand in front of the operand.
  apply Fetches.behind (reads_byte 0)
  rw [if_pos rfl]
  apply Fetches.behind told
  rw [if_neg positive]
  apply Fetches.behind (reads_byte opcode)
  rw [number, Nat.add_sub_cancel]
  exact fetches_operand within reads

/-- An extended opcode that is not known is fetched as nothing. -/
theorem fetches_unknown {opcode : UInt8} (unknown : opcode ≠ 1 ∧ opcode ≠ 2) {operand : List UInt8}
    (short : operand.length + 1 < 2 ^ 64) :
    Fetches (fetch header) (Operation.extendedBytes opcode operand) .none := by
  apply fetches_extended short List.nil_prefix
  rw [extendedInstruction_unknown unknown]
  exact reads_pure _

/-- From the first special opcode on, an opcode is a whole instruction. -/
theorem fetches_special {opcode : UInt8} (nonzero : opcode ≠ 0)
    (special : header.opcodeBase ≤ opcode) :
    Fetches (fetch header) [opcode] (.special opcode) := by
  apply Fetches.behind (reads_byte opcode)
  rw [if_neg nonzero, if_neg (UInt8.not_lt.mpr special)]
  exact fetches_fetched _

/-- An instruction reads back, and is followed by what stands behind it. -/
theorem fetches_operation (opcodes : draft.operandCounts.length < 255) {operation : Operation}
    (fits : operation.Fits draft.operandCounts) (start : Nat) :
    Fetches (fetch (draft.header start)) operation.bytes operation.instruction := by
  have base : (draft.header start).opcodeBase.toNat = draft.operandCounts.length + 1 :=
    toNat_opcodeBase opcodes
  cases operation with
  | standard instruction =>
    -- An opcode has a standard meaning only below the first special one.
    have nonzero : instruction.opcode ≠ 0 := by
      cases instruction <;> simp [Standard.opcode]
    have below : instruction.opcode < (draft.header start).opcodeBase := by
      rw [UInt8.lt_iff_toNat_lt, base]
      exact Nat.lt_succ_of_le fits
    apply Fetches.behind (reads_byte instruction.opcode)
    rw [if_neg nonzero, if_pos below]
    exact fetches_behind (reads_standard instruction)
  | unknownStandard opcode operands =>
    -- The header tells how many operands to pass over.
    obtain ⟨unknown, counted⟩ := fits
    obtain ⟨count, listed, same⟩ := Option.map_eq_some_iff.mp counted
    have inside := (List.getElem?_eq_some_iff.mp listed).1
    have nonzero : opcode ≠ 0 := by
      rintro rfl
      contradiction
    have below : opcode < (draft.header start).opcodeBase := by
      rw [UInt8.lt_iff_toNat_lt, base]
      omega
    have told : (draft.header start).operandCount opcode = operands.length := by
      rw [Header.operandCount, if_neg nonzero, Draft.header, List.getElem?_toArray, listed]
      exact same
    apply Fetches.behind (reads_byte opcode)
    rw [if_neg nonzero, if_pos below]
    exact fetches_behind (reads_unknownStandard unknown told)
  | special opcode =>
    have special : (draft.header start).opcodeBase ≤ opcode := by
      rw [UInt8.le_iff_toNat_le, base]
      exact fits
    have nonzero : opcode ≠ 0 := by
      rintro rfl
      exact absurd fits (Nat.not_lt_zero _)
    exact fetches_special nonzero special
  | endSequence => exact fetches_extended (by decide) List.prefix_rfl (reads_pure _)
  | setAddress operand =>
    exact fetches_extended fits List.prefix_rfl ((reads_address operand).map Instruction.setAddress)
  | defineFile entry => exact fetches_unknown ⟨by decide, by decide⟩ fits
  | unknownExtended opcode operand => exact fetches_unknown ⟨fits.1, fits.2.1⟩ fits.2.2

end Footprint.LineProgram
