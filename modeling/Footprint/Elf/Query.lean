import Footprint.Elf.Image

/-! Questions to an image, of which those about source lines decode its line table once. -/

namespace Footprint.Elf

/-- The line table of an image, once a question has needed it. -/
abbrev LineCache := Option LineTable

/-- An answer, what was reported on the way to it, and the line table if it is now known. -/
structure Reply (α : Type) where
  answer : α
  events : List Event
  cache : LineCache

namespace Reply

/-- An answer that needs no line table. -/
def plain {α : Type} (answer : α) (cache : LineCache) : Reply α := ⟨answer, [], cache⟩

/-- An answer made from another one. -/
def map {α β : Type} (reply : Reply α) (change : α → β) : Reply β :=
  ⟨change reply.answer, reply.events, reply.cache⟩

end Reply

namespace Image

/-- The line table, which is decoded, and reported on, only where it is not known. -/
def lines (image : Image) : LineCache → Reply LineTable
  | some table => .plain table (some table)
  | none =>
    let (table, events) := image.decodedLines
    ⟨table, events, some table⟩

/-- The row of the line table for an address. -/
def lineInfo (image : Image) (address : UInt64) (cache : LineCache) :
    Reply (Option LineProgram.Row) :=
  (image.lines cache).map (·.lookup? address)

end Image

/-- A question to an image. -/
inductive Query where
  | header
  | is64Bit
  | sectionHeaders
  | sections
  | symbols
  | symbolsInSection (name : String)
  | sectionData (name : String)
  | lineTable
  | lineInfo (address : UInt64)
deriving DecidableEq, Repr

/-- An answer of an image. -/
inductive Answer where
  | header (header : Header)
  | flag (value : Bool)
  | sectionHeaders (headers : List SectionHeader)
  | sections (sections : List Section)
  | symbols (symbols : Except Error (List Symbol))
  | contents (contents? : Option Bytes)
  | lines (table : LineTable)
  | row (row? : Option LineProgram.Row)

/-- The reply of an image to a question. -/
def Image.reply (image : Image) (query : Query) (cache : LineCache) : Reply Answer :=
  match query with
  | .header => .plain (.header image.header) cache
  | .is64Bit => .plain (.flag image.is64Bit) cache
  | .sectionHeaders => .plain (.sectionHeaders image.sectionHeaders.toList) cache
  | .sections => .plain (.sections image.sections) cache
  | .symbols => .plain (.symbols image.symbols) cache
  | .symbolsInSection name => .plain (.symbols (image.symbolsInSection name)) cache
  | .sectionData name =>
    let (contents?, events) := image.sectionData name
    ⟨.contents contents?, events, cache⟩
  | .lineTable => (image.lines cache).map .lines
  | .lineInfo address => (image.lineInfo address cache).map .row

end Footprint.Elf
