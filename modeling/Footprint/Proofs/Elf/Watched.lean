import Footprint.Elf.Image
import Footprint.Proofs.Cursor.Watched

/-! Images parsed on a machine that watches its slices, indices and sums, and is never stopped by
one. -/

namespace Footprint.Elf.Watched

open WatchedRead

/-- A number as wide as the addresses of the class. -/
def word : Class → WatchedRead UInt64
  | .elf32 => return (← word32).toUInt64
  | .elf64 => word64

/-- The fields of a file header behind the identification. -/
def numbers (class_ : Class) (encoding version osAbi abiVersion : UInt8) :
    WatchedRead Header := do
  let objectType ← word16
  let machine ← word16
  let _ ← word32
  let entry ← word class_
  let programHeaders ← word class_
  let sectionHeaders ← word class_
  let flags ← word32
  let size ← word16
  let programHeaderStride ← word16
  let programHeaderCount ← word16
  let sectionHeaderStride ← word16
  let sectionHeaderCount ← word16
  let nameTable ← word16
  return {
    class_, encoding, version, osAbi, abiVersion, objectType, machine, entry, programHeaders,
    sectionHeaders, flags, size, programHeaderStride, programHeaderCount, sectionHeaderStride,
    sectionHeaderCount, nameTable }

/-- The fields of a file header behind the class and the encoding. -/
def fields (class_ : Class) (encoding : UInt8) : WatchedRead Header := do
  let version ← byte
  let osAbi ← byte
  let abiVersion ← byte
  seek identificationSize
  numbers class_ encoding version osAbi abiVersion

/-- The fields of a section header. -/
def sectionHeader (class_ : Class) : WatchedRead SectionHeader := do
  let name ← word32
  let type ← word32
  let flags ← word class_
  let address ← word class_
  let offset ← word class_
  let size ← word class_
  let link ← word32
  let info ← word32
  let alignment ← word class_
  let entrySize ← word class_
  return { name, type, flags, address, offset, size, link, info, alignment, entrySize }

/-- The fields of a symbol table entry. -/
def symbolEntry : Class → WatchedRead SymbolEntry
  | .elf32 => do
    let name ← word32
    let value ← word .elf32
    let size ← word .elf32
    let info ← byte
    let other ← byte
    let sectionIndex ← word16
    return { name, value, size, info, other, sectionIndex }
  | .elf64 => do
    let name ← word32
    let info ← byte
    let other ← byte
    let sectionIndex ← word16
    let value ← word .elf64
    let size ← word .elf64
    return { name, value, size, info, other, sectionIndex }

variable {class_ : Class}

/-- A number as wide as an address is read without a trap. -/
theorem follows_word : (word class_).Follows class_.word := by
  cases class_ with
  | elf32 => exact follows_word32.map UInt32.toUInt64
  | elf64 => exact follows_word64

/-- A file header is read without a trap. -/
theorem follows_fields (encoding : UInt8) :
    (fields class_ encoding).Follows (Header.readFields class_ encoding) := by
  apply follows_byte.bind; intro version
  apply follows_byte.bind; intro osAbi
  apply follows_byte.bind; intro abiVersion
  apply (follows_seek identificationSize).bind; intro _
  apply follows_word16.bind; intro objectType
  apply follows_word16.bind; intro machine
  apply follows_word32.bind; intro _
  apply follows_word.bind; intro entry
  apply follows_word.bind; intro programHeaders
  apply follows_word.bind; intro sectionHeaders
  apply follows_word32.bind; intro flags
  apply follows_word16.bind; intro size
  apply follows_word16.bind; intro programHeaderStride
  apply follows_word16.bind; intro programHeaderCount
  apply follows_word16.bind; intro sectionHeaderStride
  apply follows_word16.bind; intro sectionHeaderCount
  exact follows_word16.map _

/-- A section header is read without a trap. -/
theorem follows_sectionHeader : (sectionHeader class_).Follows (SectionHeader.read class_) := by
  refine follows_word32.bind fun name => follows_word32.bind fun type => ?_
  refine follows_word.bind fun flags => follows_word.bind fun address => ?_
  refine follows_word.bind fun offset => follows_word.bind fun size => ?_
  refine follows_word32.bind fun link => follows_word32.bind fun info => ?_
  exact follows_word.bind fun alignment => follows_word.map fun entrySize =>
    SectionHeader.mk name type flags address offset size link info alignment entrySize

/-- A symbol table entry is read without a trap. -/
theorem follows_symbolEntry : (symbolEntry class_).Follows (SymbolEntry.read class_) := by
  cases class_ with
  | elf32 =>
    refine follows_word32.bind fun name => follows_word.bind fun value => ?_
    refine follows_word.bind fun size => follows_byte.bind fun info => ?_
    exact follows_byte.bind fun other => follows_word16.map fun index =>
      SymbolEntry.mk name value size info other index
  | elf64 =>
    refine follows_word32.bind fun name => follows_byte.bind fun info => ?_
    refine follows_byte.bind fun other => follows_word16.bind fun index => ?_
    exact follows_word.bind fun value => follows_word.map fun size =>
      SymbolEntry.mk name value size info other index

/-- The value of a read of an image's tables, for which a cursor is moved to its place. -/
def valueAt {α : Type} (data : Bytes) (offset : Nat) (read : WatchedRead α) : Run Error α :=
  (seek offset >>= fun _ => read).value (.ofBytes data)
    fun fault => .format (.unexpectedEnd fault.offset)

/-- A read of an image's tables meets no trap. -/
theorem yields_valueAt {α : Type} {data : Bytes} (bounded : data.size < UInt64.size) (offset : Nat)
    {watched : WatchedRead α} {read : Read α} (follows : watched.Follows read) :
    (valueAt data offset watched).Yields (Elf.valueAt data offset read) := by
  have sound : (Cursor.ofBytes data).Sound := ⟨Nat.zero_le _, bounded⟩
  have placed := ((follows_seek offset).bind fun _ => follows).value sound
    fun fault => Error.format (.unexpectedEnd fault.offset)
  -- The cursor is moved where the read starts, or is blamed on a place past the end.
  have same : Elf.valueAt data offset read =
      blamed (fun fault => .format (.unexpectedEnd fault.offset))
        ((Read.seek offset >>= fun _ => read) (.ofBytes data)) := by
    rw [Elf.valueAt]
    by_cases inside : offset ≤ data.size
    · have moved : Read.seek offset (.ofBytes data) = .ok () ⟨data, offset⟩ := if_pos inside
      rw [if_pos inside, Read.bind_of_ok moved]
      rfl
    · have past : Read.seek offset (.ofBytes data) = .error ⟨offset⟩ (.ofBytes data) :=
        if_neg inside
      rw [if_neg inside]
      simp only [Bind.bind, EStateM.bind, past, blamed]
  rw [same]
  exact placed

/-- The file header of an image. -/
def header (data : Bytes) : Run Error Header := do
  if data.size < magic.length then throw (.format .missingMagic)
  if (← Run.slice data 0 4).toList ≠ magic then throw (.format .missingMagic)
  let classByte ← valueAt data 4 byte
  let class_ ← match Class.ofByte? classByte with
    | some class_ => pure class_
    | none => throw (.format (.unsupportedClass classByte))
  let encoding ← valueAt data 5 byte
  if encoding ≠ littleEndian then throw (.format (.unsupportedEncoding encoding))
  if data.size < class_.fileHeaderSize then throw (.format (.shortHeader data.size))
  valueAt data 6 (fields class_ encoding)

/-- The file header of an image is read without a trap. -/
theorem yields_header {data : Bytes} (bounded : data.size < UInt64.size) :
    (header data).Yields (Header.parse data) := by
  simp only [header, Header.parse]
  by_cases short : data.size < magic.length
  · -- Fewer bytes than those an image starts with are not sliced.
    have other : (data.slice 0 4).toList ≠ magic := by
      intro same
      have length := congrArg List.length same
      rw [Bytes.slice, Array.length_toList, Array.size_extract] at length
      omega
    rw [if_pos short, if_pos other]
    exact Run.yields_throw _
  · rw [if_neg short]
    have four : 4 ≤ data.size := Nat.le_of_not_lt short
    -- The slice is taken first, and the checks and reads follow in their order.
    rw [Run.slice_eq_pure (Nat.zero_le _) four, pure_bind]
    refine .guarded fun _ => (yields_valueAt bounded 4 follows_byte).bind fun classByte _ => ?_
    cases Class.ofByte? classByte with
    | none => exact Run.yields_throw _
    | some class_ =>
      simp only [pure_bind]
      refine (yields_valueAt bounded 5 follows_byte).bind fun encoding _ => ?_
      exact .guarded fun _ => .guarded fun _ => yields_valueAt bounded 6 (follows_fields encoding)

/-- The section header at an index, whose place is computed in steps. -/
def sectionHeaderAt (data : Bytes) (file : Header) (index : Nat) : Run Error SectionHeader :=
  let place? := (Run.fitting? (index * file.sectionHeaderStride.toNat)).bind fun behind =>
    Run.fitting? (file.sectionHeaders.toNat + behind)
  match place? with
  | some place => valueAt data place (sectionHeader file.class_)
  | none => throw (.format (.sectionHeaderOutOfRange index))

/-- A section header is read without a trap. -/
theorem yields_sectionHeaderAt {data : Bytes} (bounded : data.size < UInt64.size) (file : Header)
    (index : Nat) :
    (sectionHeaderAt data file index).Yields (SectionHeader.readAt data file index) := by
  simp only [sectionHeaderAt, SectionHeader.readAt]
  by_cases fits :
      file.sectionHeaders.toNat + index * file.sectionHeaderStride.toNat < UInt64.size
  · -- A sum that fits eight bytes has parts that do.
    have behind : index * file.sectionHeaderStride.toNat < UInt64.size := by omega
    simp only [Run.fitting?, if_pos behind, Option.bind_some, if_pos fits]
    exact yields_valueAt bounded _ follows_sectionHeader
  · have refused : ((Run.fitting? (index * file.sectionHeaderStride.toNat)).bind fun behind =>
        Run.fitting? (file.sectionHeaders.toNat + behind)) = none := by
      simp only [Run.fitting?]
      split <;> simp [fits]
    rw [refused, if_neg fits]
    exact Run.yields_throw _

/-- All section headers. -/
def sectionHeaders (data : Bytes) (file : Header) : Run Error (Array SectionHeader) := do
  if file.sectionHeaderCount = 0 then return #[]
  let stride := file.sectionHeaderStride.toNat
  if stride < file.class_.sectionHeaderSize then
    throw (.format (.shortSectionHeader stride file.class_))
  return (← (List.range file.sectionHeaderCount.toNat).mapM (sectionHeaderAt data file)).toArray

/-- The section headers are read without a trap. -/
theorem yields_sectionHeaders {data : Bytes} (bounded : data.size < UInt64.size) (file : Header) :
    (sectionHeaders data file).Yields (SectionHeader.readAll data file) := by
  simp only [sectionHeaders, SectionHeader.readAll]
  split
  · exact Run.yields_pure _
  · refine .guarded fun _ => (Run.Yields.mapM _ fun index _ => ?_).bind fun _ _ => ?_
    · exact yields_sectionHeaderAt bounded file index
    · exact Run.yields_pure _

/-- The ends of the contents of a section, if they lie inside a file of a size. -/
def range? (header : SectionHeader) (size : Nat) : Option (Nat × Nat) :=
  (Run.fitting? (header.offset.toNat + header.size.toNat)).bind fun stop =>
    if stop ≤ size then some (header.offset.toNat, stop) else none

/-- The contents of a section in a file whose size fits eight bytes lie between their ends. -/
theorem range?_eq {data : Bytes} (bounded : data.size < UInt64.size) (header : SectionHeader) :
    range? header data.size =
      if header.offset.toNat + header.size.toNat ≤ data.size then
        some (header.offset.toNat, header.offset.toNat + header.size.toNat)
      else none := by
  rw [range?, Run.fitting?]
  by_cases inside : header.offset.toNat + header.size.toNat ≤ data.size
  · rw [if_pos (Nat.lt_of_le_of_lt inside bounded)]
    rfl
  · -- An end past the file is refused, whether it fits eight bytes or not.
    rw [if_neg inside]
    split <;> simp [inside]

/-- The text at an offset of a string table, which is empty past its end. -/
def textAt (table : Bytes) (offset : Nat) : Run Error String :=
  if offset ≤ table.size then do
    let text ← Run.slice table offset ((table.terminator? offset).getD table.size)
    return Text.Utf8.decode text
  else return ""

/-- A text ends inside its table. -/
theorem textAt_eq_pure (table : Bytes) (offset : Nat) :
    textAt table offset = pure (table.textAt offset) := by
  rw [textAt]
  by_cases inside : offset ≤ table.size
  · rw [if_pos inside]
    have stop : offset ≤ (table.terminator? offset).getD table.size ∧
        (table.terminator? offset).getD table.size ≤ table.size := by
      cases found : table.terminator? offset with
      | none => exact ⟨inside, Nat.le_refl _⟩
      | some place =>
        obtain ⟨later, zero⟩ := Bytes.terminator?_spec found
        exact ⟨later, Nat.le_of_lt (Array.getElem?_eq_some_iff.mp zero).1⟩
    rw [Run.slice_eq_pure stop.1 stop.2, pure_bind, Bytes.textAt]
  · -- Past the end of the table there is no byte to decode.
    have nothing : table.textAt offset = "" := by
      have past : table.terminator? offset = none := by
        rw [Bytes.terminator?, dif_neg (fun below => inside (Nat.le_of_lt below))]
      rw [Bytes.textAt, past, Option.getD_none, Bytes.slice,
        Array.extract_eq_empty_of_le (by omega)]
      rfl
    rw [if_neg inside, nothing]

/-- The names of sections. -/
def sectionNames (data : Bytes) (file : Header) (headers : Array SectionHeader) :
    Run Error (Array String) :=
  match headers[file.nameTable.toNat]? with
  | none => return headers.map fun _ => ""
  | some table =>
    match range? table data.size with
    | some (start, stop) => do
      let names ← headers.toList.mapM fun header => do
        textAt (← Run.slice data start stop) header.name.toNat
      return names.toArray
    | none => throw (.format (.nameTableOutOfBounds file.nameTable.toNat))

/-- The names of sections are cut out without a trap. -/
theorem yields_sectionNames {data : Bytes} (bounded : data.size < UInt64.size) (file : Header)
    (headers : Array SectionHeader) :
    (sectionNames data file headers).Yields (Elf.sectionNames data file headers) := by
  rw [sectionNames, Elf.sectionNames]
  cases headers[file.nameTable.toNat]? with
  | none => exact Run.yields_pure _
  | some table =>
    simp only [range?_eq bounded, SectionHeader.contents?]
    by_cases inside : table.offset.toNat + table.size.toNat ≤ data.size
    · simp only [if_pos inside, Run.slice_eq_pure (Nat.le_add_right _ _) inside, pure_bind,
        textAt_eq_pure]
      -- The same range is sliced for each section.
      rw [Run.mapM_eq_pure headers.toList fun header _ => rfl, pure_bind]
      rw [← Array.toList_map, Array.toArray_toList]
      exact Run.yields_pure _
    · simp only [if_neg inside]
      exact Run.yields_throw _

/-- The ends of the first symbol table and of the table of its names. -/
def symbolTable? (data : Bytes) (headers : Array SectionHeader) :
    Run Error (Option ((Nat × Nat) × (Nat × Nat))) := do
  match headers.find? SectionHeader.isSymbolTable with
  | none => return none
  | some symbols =>
    let some table := range? symbols data.size
      | throw (.format .symbolTableOutOfBounds)
    let some linked := headers[symbols.link.toNat]?
      | throw (.format (.stringTableMissing symbols.link.toNat))
    let some strings := range? linked data.size
      | throw (.format .stringTableOutOfBounds)
    return some (table, strings)

/-- The entry at an index of a symbol table, cut out of it. -/
def entryAt (class_ : Class) (table : Bytes) (index : Nat) : Run Error SymbolEntry := do
  let start ← Run.counted (index * class_.symbolEntrySize)
  let stop ← Run.counted (start + class_.symbolEntrySize)
  let entry ← Run.slice table start stop
  (symbolEntry class_).value (.ofBytes entry) .truncated

/-- The whole entries of a symbol table are cut out and read without a trap. -/
theorem yields_entries {table : Bytes} (bounded : table.size < UInt64.size) :
    ((List.range (table.size / class_.symbolEntrySize)).mapM (entryAt class_ table)).Yields
      (SymbolEntry.readAll class_ table) := by
  refine Run.Yields.mapM _ fun index member => ?_
  -- A whole entry ends inside the table, so that its ends fit eight bytes.
  have stop : index * class_.symbolEntrySize + class_.symbolEntrySize ≤ table.size := by
    rw [← Nat.succ_mul]
    exact Nat.le_trans (Nat.mul_le_mul_right _ (List.mem_range.mp member)) (Nat.div_mul_le_self _ _)
  have start : index * class_.symbolEntrySize < UInt64.size := by omega
  have fits : index * class_.symbolEntrySize + class_.symbolEntrySize < UInt64.size := by omega
  simp only [entryAt, Run.counted_eq_pure start, Run.counted_eq_pure fits, pure_bind,
    Run.slice_eq_pure (Nat.le_add_right _ _) stop]
  have sound : (Cursor.ofBytes (table.slice (index * class_.symbolEntrySize)
      (index * class_.symbolEntrySize + class_.symbolEntrySize))).Sound := by
    refine ⟨Nat.zero_le _, ?_⟩
    simp only [Cursor.ofBytes, Bytes.slice, Array.size_extract]
    omega
  have same : SymbolEntry.readAt class_ table index = blamed Error.truncated
      (SymbolEntry.read class_ (.ofBytes (table.slice (index * class_.symbolEntrySize)
        (index * class_.symbolEntrySize + class_.symbolEntrySize)))) := by
    simp only [SymbolEntry.readAt]
    split <;> rename_i done <;> rw [done] <;> rfl
  rw [same]
  exact follows_symbolEntry.value sound Error.truncated

/-- The name of a section that has a header and a name. -/
def sectionName? (headers : Array SectionHeader) (names : Array String) (place : UInt16) :
    Run Error (Option String) :=
  if place = 0 then return none
  else if place.toNat < headers.size then do
    let name ← Run.index names place.toNat
    return (some name).filter fun name => !name.isEmpty
  else return none

/-- Each section that has a header has a name. -/
theorem sectionName?_eq_pure {headers : Array SectionHeader} {names : Array String}
    (named : names.size = headers.size) (place : UInt16) :
    sectionName? headers names place = pure (SymbolEntry.sectionName? names place) := by
  rw [sectionName?, SymbolEntry.sectionName?]
  by_cases absent : place = 0
  · rw [if_pos absent, if_pos absent]
  · rw [if_neg absent, if_neg absent]
    by_cases below : place.toNat < headers.size
    · have found := Array.getElem?_eq_getElem (named ▸ below)
      rw [if_pos below, Run.index_eq_pure found, pure_bind, found]
    · rw [if_neg below, Array.getElem?_eq_none (by omega), Option.filter_none]

/-- The symbol of an entry with a size and a name. -/
def symbol? (strings : Bytes) (headers : Array SectionHeader) (names : Array String)
    (entry : SymbolEntry) : Run Error (Option Symbol) := do
  if entry.size = 0 then return none
  let name ← textAt strings entry.name.toNat
  if name.isEmpty then return none
  let sectionName? ← sectionName? headers names entry.sectionIndex
  return some
    { name
      kind := .ofInfo entry.info
      address := entry.value
      size := entry.size
      sectionName?
      object? := none
      sourceFile? := none
      sourceLine? := none }

/-- The symbol of an entry is made without a trap. -/
theorem symbol?_eq_pure {headers : Array SectionHeader} {names : Array String}
    (named : names.size = headers.size) (strings : Bytes) (entry : SymbolEntry) :
    symbol? strings headers names entry = pure (entry.symbol? strings names) := by
  simp only [symbol?, SymbolEntry.symbol?, textAt_eq_pure, pure_bind,
    sectionName?_eq_pure named]
  by_cases sized : entry.size = 0
  · simp only [sized, if_true, true_or]
  · by_cases unnamed : (strings.textAt entry.name.toNat).isEmpty
    · simp only [sized, unnamed, if_true, if_false, or_true]
    · simp only [sized, unnamed, if_false, or_self, Bool.false_eq_true]

/-- The symbols of an image. -/
def symbols? (data : Bytes) (file : Header) (headers : Array SectionHeader)
    (names : Array String) : Run Error (Option (List Symbol)) := do
  match ← symbolTable? data headers with
  | none => return none
  | some (table, strings) =>
    let table ← Run.slice data table.1 table.2
    let strings ← Run.slice data strings.1 strings.2
    let entries ← (List.range (table.size / file.class_.symbolEntrySize)).mapM
      (entryAt file.class_ table)
    let symbols ← entries.mapM (symbol? strings headers names)
    return some (Symbol.largestFirst (symbols.filterMap id))

/-- The symbols of an image are made without a trap. -/
theorem yields_symbols? {data : Bytes} (bounded : data.size < UInt64.size) (file : Header)
    {headers : Array SectionHeader} {names : Array String} (named : names.size = headers.size) :
    (symbols? data file headers names).Yields (Elf.symbols? data file headers names) := by
  simp only [symbols?, symbolTable?, Elf.symbols?, Elf.symbolTable?, range?_eq bounded,
    SectionHeader.contents?]
  cases headers.find? SectionHeader.isSymbolTable with
  | none => exact Run.yields_pure _
  | some symbols =>
    simp only
    by_cases inside : symbols.offset.toNat + symbols.size.toNat ≤ data.size
    · simp only [if_pos inside]
      cases headers[symbols.link.toNat]? with
      | none => exact Run.yields_throw _
      | some linked =>
        simp only
        by_cases behind : linked.offset.toNat + linked.size.toNat ≤ data.size
        · simp only [if_pos behind, pure_bind, Run.slice_eq_pure (Nat.le_add_right _ _) inside,
            Run.slice_eq_pure (Nat.le_add_right _ _) behind]
          have fits : (data.slice symbols.offset.toNat
              (symbols.offset.toNat + symbols.size.toNat)).size < UInt64.size := by
            rw [Bytes.slice, Array.size_extract]
            omega
          refine (yields_entries fits).bind fun entries _ => ?_
          rw [Run.mapM_eq_pure entries fun entry _ => symbol?_eq_pure named _ entry, pure_bind]
          rw [List.filterMap_map]
          exact Run.yields_pure _
        · simp only [if_neg behind]
          exact Run.yields_throw _
    · simp only [if_neg inside]
      exact Run.yields_throw _

/-- Each section has a name, if only an empty one. -/
theorem size_of_sectionNames {data : Bytes} {file : Header} {headers : Array SectionHeader}
    {names : Array String} (named : Elf.sectionNames data file headers = .ok names) :
    names.size = headers.size := by
  rw [Elf.sectionNames] at named
  split at named
  · cases named
    exact Array.size_map
  · split at named
    · cases named
      exact Array.size_map
    · contradiction

/-- The image in a file's bytes. -/
def parse (data : Bytes) : Run Error Image := do
  let header ← header data
  let sectionHeaders ← sectionHeaders data header
  let sectionNames ← sectionNames data header sectionHeaders
  let symbols? ← symbols? data header sectionHeaders sectionNames
  return { data, header, sectionHeaders, sectionNames, symbols? }

/-- An image is parsed without a trap. -/
theorem yields_parse {data : Bytes} (bounded : data.size < UInt64.size) :
    (parse data).Yields (Image.parse data) := by
  refine (yields_header bounded).bind fun file _ => ?_
  refine (yields_sectionHeaders bounded file).bind fun headers _ => ?_
  refine (yields_sectionNames bounded file headers).bind fun names named => ?_
  refine (yields_symbols? bounded file (size_of_sectionNames named)).bind fun symbols _ => ?_
  exact Run.yields_pure _

end Footprint.Elf.Watched
