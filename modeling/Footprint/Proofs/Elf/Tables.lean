import Footprint.Elf.SymbolTable
import Footprint.Proofs.Cursor.Spans

/-! What the bytes of an image tell of its file header and of its section headers. -/

namespace Footprint.Elf

variable {class_ : Class}

/-- The bytes of an address. -/
def Class.width : Class → Nat
  | .elf32 => 4
  | .elf64 => 8

/-- A number as wide as an address is the one its bytes spell. -/
theorem spans_word :
    class_.word.Spans class_.width fun data place => .ofNat (data.number place class_.width) := by
  cases class_ with
  | elf32 =>
    -- A narrow number is the same number when it is widened.
    refine (Read.spans_word32.map UInt32.toUInt64).congr rfl fun data place => ?_
    have narrow : data.number place 4 < 2 ^ 32 := data.number_lt place 4
    apply UInt64.toNat_inj.mp
    simp only [Class.width, UInt32.toNat_toUInt64, UInt32.toNat_ofNat', UInt64.toNat_ofNat']
    omega
  | elf64 => exact Read.spans_word64

/-- The number of an address is the one its bytes spell. -/
theorem toNat_address (data : Bytes) (place : Nat) :
    (UInt64.ofNat (data.number place class_.width)).toNat = data.number place class_.width := by
  have bound := data.number_lt place class_.width
  have wide : 256 ^ class_.width ≤ 2 ^ 64 := by cases class_ <;> decide
  rw [UInt64.toNat_ofNat']
  exact Nat.mod_eq_of_lt (Nat.lt_of_lt_of_le bound wide)

/-- The section header that the bytes at a place tell. -/
def SectionHeader.told (class_ : Class) (data : Bytes) (place : Nat) : SectionHeader :=
  let word := class_.width
  { name := .ofNat (data.number place 4)
    type := .ofNat (data.number (place + 4) 4)
    flags := .ofNat (data.number (place + 8) word)
    address := .ofNat (data.number (place + 8 + word) word)
    offset := .ofNat (data.number (place + 8 + word + word) word)
    size := .ofNat (data.number (place + 8 + word + word + word) word)
    link := .ofNat (data.number (place + 8 + word + word + word + word) 4)
    info := .ofNat (data.number (place + 8 + word + word + word + word + 4) 4)
    alignment := .ofNat (data.number (place + 8 + word + word + word + word + 8) word)
    entrySize := .ofNat (data.number (place + 8 + word + word + word + word + 8 + word) word) }

/-- A section header is the one its bytes tell. -/
theorem spans_sectionHeader :
    (SectionHeader.read class_).Spans class_.sectionHeaderSize (SectionHeader.told class_) := by
  refine Read.Spans.congr (Read.spans_word32.bind fun name => Read.spans_word32.bind fun type =>
    spans_word.bind fun flags => spans_word.bind fun address => spans_word.bind fun offset =>
    spans_word.bind fun size => Read.spans_word32.bind fun link =>
    Read.spans_word32.bind fun info => spans_word.bind fun alignment => spans_word.map
      (SectionHeader.mk name type flags address offset size link info alignment)) ?_ ?_
  · cases class_ <;> rfl
  · exact fun data place => rfl

/-- The file header that the bytes of an image tell. -/
def Header.told (class_ : Class) (encoding version osAbi abiVersion : UInt8) (data : Bytes)
    (place : Nat) : Header :=
  let word := class_.width
  { class_, encoding, version, osAbi, abiVersion
    objectType := .ofNat (data.number place 2)
    machine := .ofNat (data.number (place + 2) 2)
    entry := .ofNat (data.number (place + 8) word)
    programHeaders := .ofNat (data.number (place + 8 + word) word)
    sectionHeaders := .ofNat (data.number (place + 8 + word + word) word)
    flags := .ofNat (data.number (place + 8 + word + word + word) 4)
    size := .ofNat (data.number (place + 8 + word + word + word + 4) 2)
    programHeaderStride := .ofNat (data.number (place + 8 + word + word + word + 6) 2)
    programHeaderCount := .ofNat (data.number (place + 8 + word + word + word + 8) 2)
    sectionHeaderStride := .ofNat (data.number (place + 8 + word + word + word + 10) 2)
    sectionHeaderCount := .ofNat (data.number (place + 8 + word + word + word + 12) 2)
    nameTable := .ofNat (data.number (place + 8 + word + word + word + 14) 2) }

/-- The fields behind the identification are those their bytes tell. -/
theorem spans_numbers (encoding version osAbi abiVersion : UInt8) :
    (Header.readNumbers class_ encoding version osAbi abiVersion).Spans
      (class_.fileHeaderSize - identificationSize)
      (Header.told class_ encoding version osAbi abiVersion) := by
  refine Read.Spans.congr (Read.spans_word16.bind fun objectType =>
    Read.spans_word16.bind fun machine => Read.spans_word32.bind fun _ =>
    spans_word.bind fun entry => spans_word.bind fun programHeaders =>
    spans_word.bind fun sectionHeaders => Read.spans_word32.bind fun flags =>
    Read.spans_word16.bind fun size => Read.spans_word16.bind fun programHeaderStride =>
    Read.spans_word16.bind fun programHeaderCount =>
    Read.spans_word16.bind fun sectionHeaderStride =>
    Read.spans_word16.bind fun sectionHeaderCount => Read.spans_word16.map
      (Header.mk class_ encoding version osAbi abiVersion objectType machine entry programHeaders
        sectionHeaders flags size programHeaderStride programHeaderCount sectionHeaderStride
        sectionHeaderCount)) ?_ ?_
  · cases class_ <;> rfl
  · exact fun data place => rfl

/-- The symbol table entry that the bytes at a place tell. -/
def SymbolEntry.told (class_ : Class) (data : Bytes) (place : Nat) : SymbolEntry :=
  match class_ with
  | .elf32 =>
    { name := .ofNat (data.number place 4)
      value := .ofNat (data.number (place + 4) 4)
      size := .ofNat (data.number (place + 8) 4)
      info := .ofNat (data.number (place + 12) 1)
      other := .ofNat (data.number (place + 13) 1)
      sectionIndex := .ofNat (data.number (place + 14) 2) }
  -- The wide fields come last, so that they stand at multiples of their width.
  | .elf64 =>
    { name := .ofNat (data.number place 4)
      info := .ofNat (data.number (place + 4) 1)
      other := .ofNat (data.number (place + 5) 1)
      sectionIndex := .ofNat (data.number (place + 6) 2)
      value := .ofNat (data.number (place + 8) 8)
      size := .ofNat (data.number (place + 16) 8) }

/-- A symbol table entry is the one its bytes tell. -/
theorem spans_symbolEntry :
    (SymbolEntry.read class_).Spans class_.symbolEntrySize (SymbolEntry.told class_) := by
  -- The classes put the fields in different orders.
  cases class_ with
  | elf32 =>
    exact Read.Spans.congr (Read.spans_word32.bind fun name => spans_word.bind fun value =>
      spans_word.bind fun size => Read.spans_byte.bind fun info => Read.spans_byte.bind fun other =>
      Read.spans_word16.map fun index => SymbolEntry.mk name value size info other index) rfl
      fun data place => rfl
  | elf64 =>
    exact Read.Spans.congr (Read.spans_word32.bind fun name => Read.spans_byte.bind fun info =>
      Read.spans_byte.bind fun other => Read.spans_word16.bind fun index =>
      spans_word.bind fun value => spans_word.map fun size =>
      SymbolEntry.mk name value size info other index) rfl fun data place => rfl

/-- An entry inside a slice tells the same as at its place in the file. -/
theorem SymbolEntry.told_slice {data : Bytes} {start length place : Nat}
    (inside : place + class_.symbolEntrySize ≤ length) :
    SymbolEntry.told class_ (data.slice start (start + length)) place =
      .told class_ data (start + place) := by
  -- No field reaches past the entry.
  have field {behind width : Nat} (within : behind + width ≤ class_.symbolEntrySize) :
      (data.slice start (start + length)).number (place + behind) width =
        data.number (start + place + behind) width := by
    rw [Bytes.number_slice (by omega), Nat.add_assoc]
  have first {width : Nat} (within : 0 + width ≤ class_.symbolEntrySize) :
      (data.slice start (start + length)).number place width =
        data.number (start + place) width := field within
  cases class_ with
  | elf32 => simp (disch := decide) only [told, field, first]
  | elf64 => simp (disch := decide) only [told, field, first]

/-- An image as its bytes tell it, given its class. -/
structure Tables where
  class_ : Class
  data : Bytes

namespace Tables

variable (tables : Tables)

/-- The place of the section headers. -/
def start : Nat :=
  tables.data.number (24 + 2 * tables.class_.width) tables.class_.width

/-- The bytes from one section header to the next. -/
def stride : Nat := tables.data.number (34 + 3 * tables.class_.width) 2

/-- The number of section headers. -/
def count : Nat := tables.data.number (36 + 3 * tables.class_.width) 2

/-- The index of the section that holds the names of sections. -/
def nameTable : Nat := tables.data.number (38 + 3 * tables.class_.width) 2

/-- The place of the section header at an index. -/
def place (index : Nat) : Nat := tables.start + index * tables.stride

/-- The type of the section at an index. -/
def type (index : Nat) : Nat := tables.data.number (tables.place index + 4) 4

/-- The end of the contents of the section at an index. -/
def stop (index : Nat) : Nat :=
  let word := tables.class_.width
  tables.data.number (tables.place index + 8 + 2 * word) word +
    tables.data.number (tables.place index + 8 + 3 * word) word

/-- The index that the section at an index is linked to. -/
def link (index : Nat) : Nat :=
  tables.data.number (tables.place index + 8 + 4 * tables.class_.width) 4

/-- The section header at an index. -/
def header (index : Nat) : SectionHeader :=
  .told tables.class_ tables.data (tables.place index)

/-- All section headers. -/
def headers : Array SectionHeader := ((List.range tables.count).map tables.header).toArray

/-- There is a section header at each index below their number. -/
@[simp] theorem getElem?_headers (index : Nat) :
    tables.headers[index]? = if index < tables.count then some (tables.header index) else none := by
  by_cases below : index < tables.count
  · simp [headers, below]
  · simp [headers, below]

/-- The contents of a section end where its header says, in numbers without bounds. -/
theorem header_stop (index : Nat) :
    (tables.header index).offset.toNat + (tables.header index).size.toNat = tables.stop index := by
  simp only [header, SectionHeader.told, toNat_address, stop]
  -- The two words are counted one by one in the header.
  have second : tables.place index + 8 + tables.class_.width + tables.class_.width =
      tables.place index + 8 + 2 * tables.class_.width := by omega
  have third : tables.place index + 8 + 2 * tables.class_.width + tables.class_.width =
      tables.place index + 8 + 3 * tables.class_.width := by omega
  rw [second, third]

/-- A section is linked to the index that its header says. -/
theorem header_link (index : Nat) : (tables.header index).link.toNat = tables.link index := by
  have narrow := tables.data.number_lt (tables.place index + 8 + 4 * tables.class_.width) 4
  have fourth : tables.place index + 8 + tables.class_.width + tables.class_.width +
      tables.class_.width + tables.class_.width =
      tables.place index + 8 + 4 * tables.class_.width := by omega
  rw [header, SectionHeader.told, fourth, UInt32.toNat_ofNat']
  exact Nat.mod_eq_of_lt narrow

/-- A section holds symbols if its type is one of two. -/
theorem header_isSymbolTable (index : Nat) :
    (tables.header index).isSymbolTable ↔ tables.type index = 2 ∨ tables.type index = 11 := by
  have narrow : tables.type index < 2 ^ 32 := tables.data.number_lt (tables.place index + 4) 4
  have same : (tables.header index).type.toNat = tables.type index := by
    rw [header, SectionHeader.told, UInt32.toNat_ofNat']
    exact Nat.mod_eq_of_lt narrow
  simp only [SectionHeader.isSymbolTable, SectionHeader.symbolTableTypes, List.contains_eq_mem,
    List.mem_cons, List.not_mem_nil, or_false, decide_eq_true_eq, ← UInt32.toNat_inj, same,
    UInt32.reduceToNat]

/-- A file header of an image as the bytes tell it. -/
structure Tells (file : Header) : Prop where
  class_ : file.class_ = tables.class_
  start : file.sectionHeaders.toNat = tables.start
  stride : file.sectionHeaderStride.toNat = tables.stride
  count : file.sectionHeaderCount.toNat = tables.count
  nameTable : file.nameTable.toNat = tables.nameTable

/-- The file header behind the identification is as the bytes tell it. -/
theorem tells_told (encoding version osAbi abiVersion : UInt8) :
    tables.Tells (.told tables.class_ encoding version osAbi abiVersion tables.data
      identificationSize) := by
  -- Numbers of two bytes are never cut.
  have narrow (place : Nat) : (UInt16.ofNat (tables.data.number place 2)).toNat =
      tables.data.number place 2 := by
    rw [UInt16.toNat_ofNat']
    exact Nat.mod_eq_of_lt (tables.data.number_lt place 2)
  have sixteen : identificationSize = 16 := rfl
  refine ⟨rfl, ?_, ?_, ?_, ?_⟩
  · have second : identificationSize + 8 + tables.class_.width + tables.class_.width =
        24 + 2 * tables.class_.width := by omega
    rw [Header.told, toNat_address, second]
    rfl
  -- The other numbers lie behind three words.
  all_goals
    have third : identificationSize + 8 + tables.class_.width + tables.class_.width +
        tables.class_.width = 24 + 3 * tables.class_.width := by omega
    rw [Header.told, narrow, third]
  · rw [stride, Nat.add_right_comm]
  · rw [count, Nat.add_right_comm]
  · rw [nameTable, Nat.add_right_comm]

end Tables

end Footprint.Elf
