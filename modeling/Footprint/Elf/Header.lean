import Footprint.Error

/-! The file header at the start of an image. -/

namespace Footprint.Elf

/-- The fields of a file header, of which those as wide as an address are widened to eight bytes. -/
structure Header where
  class_ : Class
  encoding : UInt8
  version : UInt8
  osAbi : UInt8
  abiVersion : UInt8
  objectType : UInt16
  machine : UInt16
  entry : UInt64
  /-- The place of the program headers. -/
  programHeaders : UInt64
  /-- The place of the section headers. -/
  sectionHeaders : UInt64
  flags : UInt32
  size : UInt16
  programHeaderStride : UInt16
  programHeaderCount : UInt16
  sectionHeaderStride : UInt16
  sectionHeaderCount : UInt16
  /-- The index of the section that holds the names of sections. -/
  nameTable : UInt16
deriving DecidableEq, Repr

/-- The bytes every image starts with. -/
def magic : List UInt8 := [0x7F, 0x45, 0x4C, 0x46]

/-- The encoding of numbers with the lowest byte first. -/
def littleEndian : UInt8 := 1

/-- The length of the identification at the start of a file header. -/
def identificationSize : Nat := 16

/-- The fields behind the identification, given those inside it. -/
def Header.readNumbers (class_ : Class) (encoding version osAbi abiVersion : UInt8) :
    Read Header := do
  let objectType ← Read.word16
  let machine ← Read.word16
  -- The version is repeated in four bytes.
  let _ ← Read.word32
  let entry ← class_.word
  let programHeaders ← class_.word
  let sectionHeaders ← class_.word
  let flags ← Read.word32
  let size ← Read.word16
  let programHeaderStride ← Read.word16
  let programHeaderCount ← Read.word16
  let sectionHeaderStride ← Read.word16
  let sectionHeaderCount ← Read.word16
  let nameTable ← Read.word16
  return {
    class_, encoding, version, osAbi, abiVersion, objectType, machine, entry, programHeaders,
    sectionHeaders, flags, size, programHeaderStride, programHeaderCount, sectionHeaderStride,
    sectionHeaderCount, nameTable }

/-- The fields behind the class and the encoding. -/
def Header.readFields (class_ : Class) (encoding : UInt8) : Read Header := do
  let version ← Read.byte
  let osAbi ← Read.byte
  let abiVersion ← Read.byte
  -- Padding fills up the identification.
  Read.seek identificationSize
  readNumbers class_ encoding version osAbi abiVersion

/-- The value of a read of an image's tables, which are malformed where the file ends too early. -/
def valueAt {α : Type} (data : Bytes) (offset : Nat) (read : Read α) : Except Error α :=
  if offset ≤ data.size then
    match read ⟨data, offset⟩ with
    | .ok value _ => .ok value
    | .error fault _ => .error (.format (.unexpectedEnd fault.offset))
  -- A place past the end is itself where the file ended.
  else .error (.format (.unexpectedEnd offset))

/-- The file header of an image. -/
def Header.parse (data : Bytes) : Except Error Header := do
  if (data.slice 0 4).toList ≠ magic then throw (.format .missingMagic)
  let classByte ← valueAt data 4 Read.byte
  let class_ ← match Class.ofByte? classByte with
    | some class_ => pure class_
    | none => throw (.format (.unsupportedClass classByte))
  -- Only one of the two encodings is read.
  let encoding ← valueAt data 5 Read.byte
  if encoding ≠ littleEndian then throw (.format (.unsupportedEncoding encoding))
  if data.size < class_.fileHeaderSize then throw (.format (.shortHeader data.size))
  valueAt data 6 (readFields class_ encoding)

end Footprint.Elf
