import Footprint.Elf.SymbolTable
import Footprint.LineTable

/-! Images: their sections, symbols and line tables. -/

namespace Footprint.Elf

/-- An image whose tables lie inside its bytes. -/
structure Image where
  data : Bytes
  header : Header
  sectionHeaders : Array SectionHeader
  /-- The names of the sections, in the order of their headers. -/
  sectionNames : Array String
  /-- The symbols, larger ones first, if the image has a symbol table. -/
  symbols? : Option (List Symbol)
deriving DecidableEq, Repr

namespace Image

/-- The image in a file's bytes. -/
def parse (data : Bytes) : Except Error Image := do
  let header ← Header.parse data
  let sectionHeaders ← SectionHeader.readAll data header
  let sectionNames ← Elf.sectionNames data header sectionHeaders
  let symbols? ← Elf.symbols? data header sectionHeaders sectionNames
  return { data, header, sectionHeaders, sectionNames, symbols? }

/-- What is reported of an image once it is loaded. -/
def parsedEvent (image : Image) : Event :=
  .parsedImage image.header.class_ image.header.machine image.sectionHeaders.size
    (image.symbols?.map List.length |>.getD 0)

/-- Whether addresses are eight bytes wide. -/
def is64Bit (image : Image) : Bool := image.header.class_ = .elf64

/-- The headers of all sections with their names. -/
def namedHeaders (image : Image) : List (SectionHeader × String) :=
  (image.sectionHeaders.zip image.sectionNames).toList

/-- The sections that have a name, in the order of their headers. -/
def sections (image : Image) : List Section :=
  (image.namedHeaders.filter fun (_, name) => !name.isEmpty).map fun (header, name) =>
    header.named name

/-- The symbols, larger ones first. -/
def symbols (image : Image) : Except Error (List Symbol) :=
  match image.symbols? with
  | some symbols => .ok symbols
  | none => .error .noSymbolTable

/-- The symbols in a section, larger ones first. -/
def symbolsInSection (image : Image) (name : String) : Except Error (List Symbol) := do
  return (← image.symbols).filter (·.sectionName? = some name)

/-- The contents of the first section with a name, unless it has none in the file, and what is
reported of it. -/
def sectionData (image : Image) (name : String) : Option Bytes × List Event :=
  match image.namedHeaders.find? fun (_, other) => other = name with
  | none => (none, [])
  | some (header, _) =>
    -- The size of such a section is one in memory.
    if header.type = Section.noBits then (none, [])
    else
      match header.contents? image.data with
      | some contents => (some contents, [])
      | none => (none, [.contentsOutOfBounds name header.offset header.size])

/-- The section that holds the line programs. -/
def lineSection : String := ".debug_line"

/-- The line table of an image, which is empty without a section for it, and what is reported of
decoding it. -/
def decodedLines (image : Image) : LineTable × List Event :=
  match image.sectionData lineSection with
  | (some data, events) =>
    let (table, decoding) := LineTable.parse data
    (table, events ++ decoding)
  | (none, events) => (.empty, events ++ [.noLineSection])

end Image

end Footprint.Elf
