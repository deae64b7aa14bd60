import Footprint.Elf.Image
import Footprint.Proofs.Elf.Fields
import Footprint.Proofs.Text.NameTable

/-! Images as they are meant, and the files that a writer lays out for them. -/

namespace Footprint.Elf

/-- What is said of a section besides its type and its contents. -/
structure Heading where
  name : String
  flags : UInt64
  address : UInt64
  info : UInt32
  alignment : UInt64
  entrySize : UInt64
  /-- The place of the contents in the file. -/
  offset : UInt64

/-- The contents of a section. -/
inductive Contents where
  | stored (bytes : List UInt8)
  /-- Memory without bytes in the file. -/
  | absent (size : UInt64)

/-- A section with its contents. -/
structure Part extends Heading where
  type : UInt32
  link : UInt32
  contents : Contents

namespace Part

/-- The section that stands for none, at the start of each table. -/
def null : Part where
  name := ""
  flags := 0
  address := 0
  info := 0
  alignment := 0
  entrySize := 0
  offset := 0
  type := 0
  link := 0
  contents := .stored []

/-- The number of bytes that a section takes in memory. -/
def size (part : Part) : UInt64 :=
  match part.contents with
  | .stored bytes => .ofNat bytes.length
  | .absent size => size

/-- The bytes of a section in the file. -/
def bytes? (part : Part) : Option (List UInt8) :=
  match part.contents with
  | .stored bytes => some bytes
  | .absent _ => none

/-- The header of a section whose name stands at a place. -/
def header (part : Part) (place : Nat) : SectionHeader where
  name := .ofNat place
  type := part.type
  flags := part.flags
  address := part.address
  offset := part.offset
  size := part.size
  link := part.link
  info := part.info
  alignment := part.alignment
  entrySize := part.entrySize

/-- The section as it is meant. -/
def area (part : Part) : Section where
  name := part.name
  address := part.address
  size := part.size
  -- The second lowest flag says that a section takes memory.
  needsLoad := part.flags.toNat.testBit 1
  type := part.type
  flags := part.flags

end Part

/-- A symbol as it is meant. -/
structure SymbolDraft where
  name : String
  value : UInt64
  size : UInt64
  /-- The kind, in the lower half, and the binding. -/
  info : UInt8
  other : UInt8
  /-- The index of the section that the symbol lies in; zero stands for none. -/
  sectionIndex : UInt16

namespace SymbolDraft

/-- The entry of a symbol whose name stands at a place. -/
def entry (draft : SymbolDraft) (place : Nat) : SymbolEntry where
  name := .ofNat place
  value := draft.value
  size := draft.size
  info := draft.info
  other := draft.other
  sectionIndex := draft.sectionIndex

/-- Whether a symbol has a size and a name. -/
def counts (draft : SymbolDraft) : Bool := draft.size ≠ 0 ∧ draft.name ≠ ""

end SymbolDraft

/-- The entry that stands for no symbol, at the start of each table. -/
def SymbolEntry.null : SymbolEntry := ⟨0, 0, 0, 0, 0, 0⟩

/-- What an image is written from. -/
structure Blueprint where
  class_ : Class
  version : UInt8
  osAbi : UInt8
  abiVersion : UInt8
  /-- The bytes that fill up the identification. -/
  padding : List UInt8
  objectType : UInt16
  machine : UInt16
  objectVersion : UInt32
  entry : UInt64
  programHeaders : UInt64
  flags : UInt32
  size : UInt16
  programHeaderStride : UInt16
  programHeaderCount : UInt16
  sections : List Part
  /-- The section that holds the symbols. -/
  symbolTable : Heading
  /-- The type of that section. -/
  symbolTableType : UInt32
  /-- The section that holds the names of symbols. -/
  symbolNames : Heading
  /-- The section that holds the names of sections. -/
  sectionNames : Heading
  symbols : List SymbolDraft
  /-- The place of the section headers. -/
  sectionHeaders : UInt64
  sectionHeaderStride : UInt16

namespace Blueprint

variable (blueprint : Blueprint)

/-- The type of a section that holds names. -/
def nameTableType : UInt32 := 3

/-- The entries of the symbol table. -/
def entries : List SymbolEntry :=
  .null :: (withPlaces SymbolDraft.name 1 blueprint.symbols).map fun (place, symbol) =>
    symbol.entry place

/-- The section that holds the symbols; it names the one that holds their names. -/
def symbolPart : Part :=
  { blueprint.symbolTable with
    type := blueprint.symbolTableType
    link := .ofNat (blueprint.sections.length + 2)
    contents := .stored (blueprint.entries.flatMap (SymbolEntry.bytes blueprint.class_)) }

/-- The section that holds the names of symbols. -/
def symbolNamePart : Part :=
  { blueprint.symbolNames with
    type := nameTableType
    link := 0
    contents := .stored (nameTable SymbolDraft.name blueprint.symbols) }

/-- The names of the sections, in the order of their headers. -/
def names : List String :=
  "" :: blueprint.sections.map (·.name) ++
    [blueprint.symbolTable.name, blueprint.symbolNames.name, blueprint.sectionNames.name]

/-- The section that holds the names of sections. -/
def sectionNamePart : Part :=
  { blueprint.sectionNames with
    type := nameTableType
    link := 0
    contents := .stored (nameTable id blueprint.names) }

/-- All sections in the order of their headers. -/
def parts : List Part :=
  .null :: blueprint.sections ++
    [blueprint.symbolPart, blueprint.symbolNamePart, blueprint.sectionNamePart]

/-- The sections with the places of their names. -/
def placed : List (Nat × Part) := withPlaces (·.name) 1 blueprint.parts

/-- The section headers. -/
def headers : List SectionHeader := blueprint.placed.map fun (place, part) => part.header place

/-- The file header. -/
def header : Header where
  class_ := blueprint.class_
  encoding := littleEndian
  version := blueprint.version
  osAbi := blueprint.osAbi
  abiVersion := blueprint.abiVersion
  objectType := blueprint.objectType
  machine := blueprint.machine
  entry := blueprint.entry
  programHeaders := blueprint.programHeaders
  sectionHeaders := blueprint.sectionHeaders
  flags := blueprint.flags
  size := blueprint.size
  programHeaderStride := blueprint.programHeaderStride
  programHeaderCount := blueprint.programHeaderCount
  sectionHeaderStride := blueprint.sectionHeaderStride
  sectionHeaderCount := .ofNat blueprint.parts.length
  nameTable := .ofNat (blueprint.sections.length + 3)

/-- The file header, the contents and the section headers, each at its place. -/
def blocks : List Block :=
  ⟨0, blueprint.header.identification blueprint.padding ++
      blueprint.header.fieldBytes blueprint.objectVersion⟩ ::
    (blueprint.parts.filterMap fun part => part.bytes?.map fun bytes => ⟨part.offset.toNat, bytes⟩) ++
      blueprint.headers.zipIdx.map fun (header, index) =>
        ⟨blueprint.sectionHeaders.toNat + index * blueprint.sectionHeaderStride.toNat,
          header.bytes blueprint.class_⟩

/-- The name of the section with an index, if it has one. -/
def sectionName? (index : UInt16) : Option String :=
  if index = 0 then none else (blueprint.names[index.toNat]?).filter (· ≠ "")

/-- A symbol that has a size and a name, as it is meant. -/
def symbol (draft : SymbolDraft) : Symbol where
  name := draft.name
  kind := .ofInfo draft.info
  address := draft.value
  size := draft.size
  sectionName? := blueprint.sectionName? draft.sectionIndex
  object? := none
  sourceFile? := none
  sourceLine? := none

end Blueprint

/-- A blueprint with a file that has room for all of it. -/
structure Layout extends Blueprint where
  /-- The size of the file. -/
  fileSize : Nat
  /-- The bytes that nothing is written over. -/
  filler : Nat → UInt8
  padded : padding.length = 7
  few : toBlueprint.parts.length < 0xFF00
  stride : class_.sectionHeaderSize ≤ sectionHeaderStride.toNat
  symbolic : symbolTableType ∈ SectionHeader.symbolTableTypes
  plain : ∀ part ∈ sections, part.type ∉ SectionHeader.symbolTableTypes
  typed : ∀ part ∈ sections, part.type = Section.noBits ↔ part.bytes? = none
  namedSections : ∀ name ∈ toBlueprint.names, '\x00' ∉ name.toList
  namedSymbols : ∀ symbol ∈ symbols, '\x00' ∉ symbol.name.toList
  shortSectionNames : (nameTable id toBlueprint.names).length ≤ 2 ^ 32
  shortSymbolNames : (nameTable SymbolDraft.name symbols).length ≤ 2 ^ 32
  headerFits : toBlueprint.header.Fits
  headersFit : ∀ header ∈ toBlueprint.headers, header.Fits class_
  entriesFit : ∀ entry ∈ toBlueprint.entries, entry.Fits class_
  addressable : fileSize < 2 ^ 64
  inside : ∀ block ∈ toBlueprint.blocks, block.stop ≤ fileSize
  apart : toBlueprint.blocks.Pairwise Block.Apart

/-- The file of a layout. -/
def Layout.data (layout : Layout) : Bytes :=
  Bytes.lay layout.fileSize layout.filler layout.blocks

end Footprint.Elf
