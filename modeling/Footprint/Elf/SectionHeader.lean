import Footprint.Elf.Header
import Footprint.Section

/-! The section headers of an image and the contents they describe. -/

namespace Footprint.Elf

/-- The fields of a section header, of which those as wide as an address are widened to eight
bytes. -/
structure SectionHeader where
  /-- The place of the name in the table of names. -/
  name : UInt32
  type : UInt32
  flags : UInt64
  address : UInt64
  /-- The place of the contents in the file. -/
  offset : UInt64
  size : UInt64
  link : UInt32
  info : UInt32
  alignment : UInt64
  entrySize : UInt64
deriving DecidableEq, Repr

namespace SectionHeader

/-- The types of sections that hold symbols. -/
def symbolTableTypes : List UInt32 := [2, 11]

/-- Whether a section holds symbols. -/
def isSymbolTable (header : SectionHeader) : Bool := symbolTableTypes.contains header.type

/-- The fields in their order in the file. -/
def read (class_ : Class) : Read SectionHeader := do
  let name ← Read.word32
  let type ← Read.word32
  let flags ← class_.word
  let address ← class_.word
  let offset ← class_.word
  let size ← class_.word
  let link ← Read.word32
  let info ← Read.word32
  let alignment ← class_.word
  let entrySize ← class_.word
  return { name, type, flags, address, offset, size, link, info, alignment, entrySize }

/-- The contents of a section, if they lie inside the file. -/
def contents? (header : SectionHeader) (data : Bytes) : Option Bytes :=
  -- The sum is taken without wrapping around.
  let start := header.offset.toNat
  let stop := start + header.size.toNat
  if stop ≤ data.size then some (data.slice start stop) else none

/-- A section under its name. -/
def named (header : SectionHeader) (name : String) : Section where
  name
  address := header.address
  size := header.size
  needsLoad := header.flags &&& Section.allocated != 0
  type := header.type
  flags := header.flags

/-- The header at an index of the table that a file header places. -/
def readAt (data : Bytes) (file : Header) (index : Nat) : Except Error SectionHeader :=
  let offset := file.sectionHeaders.toNat + index * file.sectionHeaderStride.toNat
  if offset < UInt64.size then valueAt data offset (read file.class_)
  else .error (.format (.sectionHeaderOutOfRange index))

/-- All headers in their order in the table; the stride may be larger than a header but not
smaller. -/
def readAll (data : Bytes) (file : Header) : Except Error (Array SectionHeader) := do
  -- Without headers, their stride says nothing.
  if file.sectionHeaderCount = 0 then return #[]
  let stride := file.sectionHeaderStride.toNat
  if stride < file.class_.sectionHeaderSize then
    throw (.format (.shortSectionHeader stride file.class_))
  return (← (List.range file.sectionHeaderCount.toNat).mapM (readAt data file)).toArray

end SectionHeader

/-- The names of sections; without a section to hold them, all are empty. -/
def sectionNames (data : Bytes) (file : Header) (headers : Array SectionHeader) :
    Except Error (Array String) :=
  match headers[file.nameTable.toNat]? with
  -- An index past the headers is no fault, but a table outside the file is.
  | none => .ok (headers.map fun _ => "")
  | some table =>
    match table.contents? data with
    | some names => .ok (headers.map fun header => names.textAt header.name.toNat)
    | none => .error (.format (.nameTableOutOfBounds file.nameTable.toNat))

end Footprint.Elf
