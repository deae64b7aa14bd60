import Footprint.Error
import Footprint.LineProgram.Header

/-! What loading and queries report on their way, besides their answers. -/

namespace Footprint

/-- How much an event matters. -/
inductive Severity where
  | warning
  | debug
  | trace
deriving DecidableEq, Repr

/-- The word for a severity. -/
def Severity.label : Severity → String
  | .warning => "WARN"
  | .debug => "DEBUG"
  | .trace => "TRACE"

/-- A detail of an event. -/
inductive Detail where
  | number (value : Nat)
  | flag (value : Bool)
  | text (value : String)
deriving DecidableEq, Repr

/-- Something that happened on the way to an answer. -/
inductive Event where
  | loadingImage (path : String)
  | parsedImage (class_ : Elf.Class) (machine : UInt16) (sections symbols : Nat)
  | contentsOutOfBounds (name : String) (offset size : UInt64)
  | noLineSection
  /-- A unit of a line table whose length is zero or leaves the section. -/
  | unusableUnit (offset : Nat)
  /-- Bytes of a line table that are too few for another unit. -/
  | trailingBytes (offset : Nat) (fault : Truncated)
  | lineProgram (offset : Nat) (header : LineProgram.Header) (rows : Nat)
  | skippedUnit (offset : Nat) (reason : LineProgram.SkipReason)
  | truncatedUnit (offset : Nat) (fault : Truncated)
  | decodedLines (decoded skipped rows : Nat)
  | loadingMap (path : String)
  | mapObject (object : String)
  | parsedMap (symbols : Nat) (found : Bool)
  | creatingAnalyzer (elf map : Bool)
  | lookupFailed (symbol : String) (error : Error)
deriving DecidableEq, Repr

namespace Event

/-- How much an event matters. -/
def severity : Event → Severity
  | .contentsOutOfBounds .. | .truncatedUnit .. => .warning
  | .mapObject _ => .trace
  | _ => .debug

/-- What is said of an event. -/
def message : Event → String
  | .loadingImage _ => "loading ELF image"
  | .parsedImage .. => "parsed ELF image"
  | .contentsOutOfBounds .. => "section contents out of bounds"
  | .noLineSection => "no .debug_line section, source lookups disabled"
  | .unusableUnit _ => "line table unit length is zero or out of range, stopping"
  | .trailingBytes .. => "trailing bytes after last line table unit"
  | .lineProgram .. => "line program unit"
  | .skippedUnit .. => "skipping line table unit"
  | .truncatedUnit .. => "line table unit truncated"
  | .decodedLines .. => "decoded .debug_line"
  | .loadingMap _ => "loading MAP file"
  | .mapObject _ => "MAP object"
  | .parsedMap .. => "parsed MAP file"
  | .creatingAnalyzer .. => "creating symbol analyzer"
  | .lookupFailed .. => "debug info lookup failed"

/-- The named details of an event. -/
def details : Event → List (String × Detail)
  | .loadingImage path | .loadingMap path => [("path", .text path)]
  | .parsedImage class_ machine sections symbols =>
    [("class", .text class_.label), ("machine", .number machine.toNat),
      ("sections", .number sections), ("symbols", .number symbols)]
  | .contentsOutOfBounds name offset size =>
    [("section", .text name), ("offset", .number offset.toNat), ("size", .number size.toNat)]
  | .noLineSection => []
  | .unusableUnit offset => [("offset", .number offset)]
  | .trailingBytes offset fault | .truncatedUnit offset fault =>
    [("offset", .number offset), ("err", .text fault.message)]
  | .lineProgram offset header rows =>
    [("offset", .number offset), ("version", .number header.version.toNat),
      ("max_ops", .number header.maxOperations.toNat),
      ("directories", .number header.directories.size), ("files", .number header.files.size),
      ("rows", .number rows)]
  | .skippedUnit offset reason => [("offset", .number offset), ("reason", .text reason.label)]
  | .decodedLines decoded skipped rows =>
    [("decoded", .number decoded), ("skipped", .number skipped), ("rows", .number rows)]
  | .mapObject object => [("object", .text object)]
  | .parsedMap symbols found =>
    [("symbols", .number symbols), ("in_symbol_section", .flag found)]
  | .creatingAnalyzer elf map => [("elf", .flag elf), ("map", .flag map)]
  | .lookupFailed symbol error => [("symbol", .text symbol), ("err", .text error.message)]

end Event

end Footprint
