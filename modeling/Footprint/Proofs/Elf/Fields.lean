import Footprint.Elf.SymbolTable
import Footprint.Proofs.Bytes.Layout

/-! The headers and entries of an image read back from their bytes, in both classes. -/

namespace Footprint.Elf

namespace Class

/-- The number of a class. -/
def byte : Class → UInt8
  | .elf32 => 1
  | .elf64 => 2

/-- Whether a number is as narrow as the addresses of the class. -/
def Fits : Class → UInt64 → Prop
  | .elf32, value => value.toNat < 2 ^ 32
  | .elf64, _ => True

/-- The bytes of a number as wide as the addresses of the class. -/
def wordBytes : Class → UInt64 → List UInt8
  | .elf32, value => Bytes.digits 4 value.toNat
  | .elf64, value => Bytes.digits 8 value.toNat

/-- A class is told by its number. -/
theorem ofByte?_byte (class_ : Class) : ofByte? class_.byte = some class_ := by
  cases class_ <;> rfl

end Class

variable {class_ : Class}

/-- A number as wide as an address reads back. -/
theorem reads_word {value : UInt64} (fits : class_.Fits value) :
    Reads class_.word (class_.wordBytes value) value := by
  cases class_ with
  | elf32 =>
    -- The number is written as a narrow one, and widened again.
    have number : value.toUInt32.toNat = value.toNat := by
      rw [UInt64.toNat_toUInt32]
      exact Nat.mod_eq_of_lt fits
    have same : value.toUInt32.toUInt64 = value := by
      apply UInt64.toNat_inj.mp
      rw [UInt32.toNat_toUInt64, number]
    have reads := (reads_word32 value.toUInt32).map UInt32.toUInt64
    rwa [number, same] at reads
  | elf64 => exact reads_word64 value

namespace SectionHeader

/-- The bytes of a section header. -/
def bytes (class_ : Class) (header : SectionHeader) : List UInt8 :=
  Bytes.digits 4 header.name.toNat ++ (Bytes.digits 4 header.type.toNat ++
    (class_.wordBytes header.flags ++ (class_.wordBytes header.address ++
      (class_.wordBytes header.offset ++ (class_.wordBytes header.size ++
        (Bytes.digits 4 header.link.toNat ++ (Bytes.digits 4 header.info.toNat ++
          (class_.wordBytes header.alignment ++ class_.wordBytes header.entrySize))))))))

/-- Whether the numbers of a section header are as narrow as the class asks for. -/
structure Fits (class_ : Class) (header : SectionHeader) : Prop where
  flags : class_.Fits header.flags
  address : class_.Fits header.address
  offset : class_.Fits header.offset
  size : class_.Fits header.size
  alignment : class_.Fits header.alignment
  entrySize : class_.Fits header.entrySize

end SectionHeader

/-- A section header reads back. -/
theorem reads_sectionHeader {header : SectionHeader} (fits : header.Fits class_) :
    Reads (SectionHeader.read class_) (header.bytes class_) header := by
  -- The order of the fields is that of both classes, and only their widths differ.
  apply (reads_word32 header.name).bind
  apply (reads_word32 header.type).bind
  apply (reads_word fits.flags).bind
  apply (reads_word fits.address).bind
  apply (reads_word fits.offset).bind
  apply (reads_word fits.size).bind
  apply (reads_word32 header.link).bind
  apply (reads_word32 header.info).bind
  apply (reads_word fits.alignment).bind
  exact (reads_word fits.entrySize).map fun entrySize => { header with entrySize }

namespace SymbolEntry

/-- The bytes of a symbol table entry, in the order of its class. -/
def bytes : Class → SymbolEntry → List UInt8
  | .elf32, entry =>
    Bytes.digits 4 entry.name.toNat ++ (Class.elf32.wordBytes entry.value ++
      (Class.elf32.wordBytes entry.size ++ ([entry.info] ++ ([entry.other] ++
        Bytes.digits 2 entry.sectionIndex.toNat))))
  | .elf64, entry =>
    Bytes.digits 4 entry.name.toNat ++ ([entry.info] ++ ([entry.other] ++
      (Bytes.digits 2 entry.sectionIndex.toNat ++ (Class.elf64.wordBytes entry.value ++
        Class.elf64.wordBytes entry.size))))

/-- Whether the numbers of an entry are as narrow as the class asks for. -/
structure Fits (class_ : Class) (entry : SymbolEntry) : Prop where
  value : class_.Fits entry.value
  size : class_.Fits entry.size

end SymbolEntry

/-- A symbol table entry has the size that its class says. -/
theorem length_symbolEntry (entry : SymbolEntry) :
    (entry.bytes class_).length = class_.symbolEntrySize := by
  cases class_ <;> simp [SymbolEntry.bytes, Class.wordBytes, Class.symbolEntrySize]

/-- A symbol table entry reads back. -/
theorem reads_symbolEntry {entry : SymbolEntry} (fits : entry.Fits class_) :
    Reads (SymbolEntry.read class_) (entry.bytes class_) entry := by
  -- The classes put the fields in different orders.
  cases class_ with
  | elf32 =>
    apply (reads_word32 entry.name).bind
    apply (reads_word fits.value).bind
    apply (reads_word fits.size).bind
    apply (reads_byte entry.info).bind
    apply (reads_byte entry.other).bind
    exact (reads_word16 entry.sectionIndex).map fun sectionIndex => { entry with sectionIndex }
  | elf64 =>
    apply (reads_word32 entry.name).bind
    apply (reads_byte entry.info).bind
    apply (reads_byte entry.other).bind
    apply (reads_word16 entry.sectionIndex).bind
    apply (reads_word fits.value).bind
    exact (reads_word fits.size).map fun size => { entry with size }

/-- A value is found where a read yields it. -/
theorem valueAt_of_ok {α : Type} {read : Read α} {data : Bytes} {offset : Nat} {value : α}
    {after : Cursor} (inside : offset ≤ data.size) (done : read ⟨data, offset⟩ = .ok value after) :
    valueAt data offset read = .ok value := by
  -- Where the read ended does not matter.
  rw [valueAt, if_pos inside, done]

/-- A value that reads back is found where its bytes stand. -/
theorem valueAt_between {α : Type} {read : Read α} {bytes : List UInt8} {value : α}
    (reads : Reads read bytes value) (behind ahead : List UInt8) :
    valueAt (behind ++ (bytes ++ ahead)).toArray behind.length read = .ok value := by
  have inside : behind.length ≤ (behind ++ (bytes ++ ahead)).toArray.size := by
    simp
  exact valueAt_of_ok inside (reads behind ahead)

/-- A value that reads back is found in a file that carries its bytes. -/
theorem valueAt_of_carries {α : Type} {read : Read α} {bytes : List UInt8} {value : α}
    (reads : Reads read bytes value) {data : Bytes} {offset : Nat}
    (carried : data.Carries ⟨offset, bytes⟩) : valueAt data offset read = .ok value := by
  -- The file is made of what is behind the bytes, the bytes, and what is ahead.
  obtain ⟨behind, ahead, rfl, rfl⟩ := carried.split
  exact valueAt_between reads behind ahead

namespace Header

/-- The bytes that identify an image: what every image starts with, the class, the encoding, and
padding up to the fields. -/
def identification (header : Header) (padding : List UInt8) : List UInt8 :=
  magic ++ ([header.class_.byte] ++ ([header.encoding] ++ ([header.version] ++ ([header.osAbi] ++
    ([header.abiVersion] ++ padding)))))

/-- The bytes of a file header behind those that identify the image. -/
def fieldBytes (header : Header) (objectVersion : UInt32) : List UInt8 :=
  Bytes.digits 2 header.objectType.toNat ++ (Bytes.digits 2 header.machine.toNat ++
    (Bytes.digits 4 objectVersion.toNat ++ (header.class_.wordBytes header.entry ++
      (header.class_.wordBytes header.programHeaders ++
        (header.class_.wordBytes header.sectionHeaders ++ (Bytes.digits 4 header.flags.toNat ++
          (Bytes.digits 2 header.size.toNat ++ (Bytes.digits 2 header.programHeaderStride.toNat ++
            (Bytes.digits 2 header.programHeaderCount.toNat ++
              (Bytes.digits 2 header.sectionHeaderStride.toNat ++
                (Bytes.digits 2 header.sectionHeaderCount.toNat ++
                  Bytes.digits 2 header.nameTable.toNat)))))))))))

/-- Whether the numbers of a file header are as narrow as the class asks for. -/
structure Fits (header : Header) : Prop where
  entry : header.class_.Fits header.entry
  programHeaders : header.class_.Fits header.programHeaders
  sectionHeaders : header.class_.Fits header.sectionHeaders

end Header

/-- A place further on is sought over the bytes in between. -/
theorem seek_between (behind passed ahead : List UInt8) :
    Read.seek (behind ++ passed).length (.between behind (passed ++ ahead)) =
      .ok () (.between (behind ++ passed) ahead) := by
  -- The place sought is one of the file, so that the cursor goes there.
  have inside :
      (behind ++ passed).length ≤ (Cursor.between behind (passed ++ ahead)).data.size := by
    simp
  rw [Read.seek, if_pos inside]
  simp [Cursor.between]

/-- The numbers of a file header read back. -/
theorem reads_numbers {header : Header} (fits : header.Fits) (objectVersion : UInt32) :
    Reads (Header.readNumbers header.class_ header.encoding header.version header.osAbi
      header.abiVersion) (header.fieldBytes objectVersion) header := by
  -- The version of the object is read and not kept.
  apply (reads_word16 header.objectType).bind
  apply (reads_word16 header.machine).bind
  apply (reads_word32 objectVersion).bind
  apply (reads_word fits.entry).bind
  apply (reads_word fits.programHeaders).bind
  apply (reads_word fits.sectionHeaders).bind
  apply (reads_word32 header.flags).bind
  apply (reads_word16 header.size).bind
  apply (reads_word16 header.programHeaderStride).bind
  apply (reads_word16 header.programHeaderCount).bind
  apply (reads_word16 header.sectionHeaderStride).bind
  apply (reads_word16 header.sectionHeaderCount).bind
  exact (reads_word16 header.nameTable).map fun nameTable => { header with nameTable }

/-- The bytes of a file header have the size that its class says, if the padding fills up the
identification. -/
theorem length_fileHeader {header : Header} {padding : List UInt8} (filled : padding.length = 7)
    (objectVersion : UInt32) :
    (header.identification padding ++ header.fieldBytes objectVersion).length =
      header.class_.fileHeaderSize := by
  rw [List.length_append]
  cases told : header.class_ <;>
    simp [Header.identification, Header.fieldBytes, magic, told, filled, Class.wordBytes,
      Class.fileHeaderSize]

/-- The fields behind the class and the encoding read back. -/
theorem readFields_between {header : Header} (fits : header.Fits) {padding : List UInt8}
    (filled : padding.length = 7) (objectVersion : UInt32) {front : List UInt8}
    (placed : front.length = 6) (ahead : List UInt8) :
    ∃ after, Header.readFields header.class_ header.encoding
        (.between front ([header.version] ++ ([header.osAbi] ++ ([header.abiVersion] ++
          (padding ++ (header.fieldBytes objectVersion ++ ahead)))))) =
      .ok header after := by
  let behind := front ++ [header.version] ++ [header.osAbi] ++ [header.abiVersion]
  -- The numbers stand where the identification ends, whatever its padding holds.
  have sought := seek_between behind padding (header.fieldBytes objectVersion ++ ahead)
  have place : (behind ++ padding).length = identificationSize := by
    simp [behind, filled, placed, identificationSize]
  rw [place] at sought
  have numbers := reads_numbers fits objectVersion (behind ++ padding) ahead
  -- Three single bytes are read before the place is sought.
  have passed : Header.readFields header.class_ header.encoding
        (.between front ([header.version] ++ ([header.osAbi] ++ ([header.abiVersion] ++
          (padding ++ (header.fieldBytes objectVersion ++ ahead)))))) =
      Header.readNumbers header.class_ header.encoding header.version header.osAbi
        header.abiVersion
        (.between (behind ++ padding) (header.fieldBytes objectVersion ++ ahead)) := by
    rw [Header.readFields, Read.bind_of_ok (reads_byte header.version _ _),
      Read.bind_of_ok (reads_byte header.osAbi _ _),
      Read.bind_of_ok (reads_byte header.abiVersion _ _), Read.bind_of_ok sought]
  rw [numbers] at passed
  exact ⟨_, passed⟩

/-- Behind an identification that is accepted, the fields of the file header are read. -/
theorem parse_of_identified {data : Bytes} (begins : (data.slice 0 4).toList = magic)
    (told : valueAt data 4 Read.byte = .ok class_.byte)
    (encoded : valueAt data 5 Read.byte = .ok littleEndian)
    (room : class_.fileHeaderSize ≤ data.size) :
    Header.parse data = valueAt data 6 (Header.readFields class_ littleEndian) := by
  simp only [Header.parse, begins, told, encoded, Class.ofByte?_byte, Bind.bind, Except.bind,
    Pure.pure, Except.pure, ne_eq, not_true_eq_false, if_false, if_neg (Nat.not_lt_of_le room)]

/-- The file header reads back at the start of a file. -/
theorem parse_header {header : Header} (fits : header.Fits)
    (encoded : header.encoding = littleEndian) {padding : List UInt8} (filled : padding.length = 7)
    {objectVersion : UInt32} {data : Bytes}
    (carried : data.Carries ⟨0, header.identification padding ++ header.fieldBytes objectVersion⟩) :
    Header.parse data = .ok header := by
  have room := carried.inside
  rw [Block.stop, length_fileHeader filled, Nat.zero_add] at room
  obtain ⟨behind, ahead, start, rfl⟩ := carried.split
  obtain rfl := List.eq_nil_of_length_eq_zero start
  -- What every image starts with, the class and the encoding stand in front of the fields.
  let front := magic ++ [header.class_.byte] ++ [littleEndian]
  let tail := [header.version] ++ ([header.osAbi] ++ ([header.abiVersion] ++
    (padding ++ (header.fieldBytes objectVersion ++ ahead))))
  obtain ⟨after, fields⟩ := readFields_between fits filled objectVersion
    (show front.length = 6 from rfl) ahead
  have spelled : [] ++ (header.identification padding ++ header.fieldBytes objectVersion ++ ahead) =
      front ++ tail := by
    simp only [Header.identification, front, tail, encoded, List.nil_append, List.append_assoc]
  rw [spelled] at room ⊢
  -- The places of the class and the encoding are asked for one by one.
  have begins : (Bytes.slice (front ++ tail).toArray 0 4).toList = magic := by
    simp [Bytes.slice, magic, front]
  have told : valueAt (front ++ tail).toArray 4 Read.byte = .ok header.class_.byte := by
    have found := valueAt_between (reads_byte header.class_.byte) magic ([littleEndian] ++ tail)
    rwa [← List.append_assoc, ← List.append_assoc] at found
  have coded : valueAt (front ++ tail).toArray 5 Read.byte = .ok littleEndian := by
    have found := valueAt_between (reads_byte littleEndian) (magic ++ [header.class_.byte]) tail
    rwa [← List.append_assoc] at found
  have inside : 6 ≤ (front ++ tail).toArray.size := by
    simp [front, magic]
  rw [encoded] at fields
  rw [parse_of_identified begins told coded room]
  exact valueAt_of_ok inside fields

end Footprint.Elf
