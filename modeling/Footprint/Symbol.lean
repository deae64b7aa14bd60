import Footprint.Mangled.Name
import Footprint.Text.Number

/-! Named pieces of memory: their kind, place, size and origin. -/

namespace Footprint

/-- What a symbol stands for. -/
inductive SymbolKind where
  | untyped
  | object
  | function
  | section
  | file
  | common
  | threadLocal
  /-- Also the kind of a symbol that only a link map names. -/
  | unknown
deriving DecidableEq, Repr

namespace SymbolKind

/-- The low half of a symbol's information byte holds its kind. -/
def ofInfo (info : UInt8) : SymbolKind :=
  match (info &&& 0xF).toNat with
  | 0 => .untyped
  | 1 => .object
  | 2 => .function
  | 3 => .section
  | 4 => .file
  | 5 => .common
  | 6 => .threadLocal
  | _ => .unknown

/-- The word for a kind. -/
def label : SymbolKind → String
  | .untyped => "NOTYPE"
  | .object => "OBJECT"
  | .function => "FUNC"
  | .section => "SECTION"
  | .file => "FILE"
  | .common => "COMMON"
  | .threadLocal => "TLS"
  | .unknown => "UNKNOWN"

end SymbolKind

/-- The language a symbol's name is taken to come from. -/
inductive Language where
  | rust
  | cpp
  | c
deriving DecidableEq, Repr

/-- The word for a language. -/
def Language.label : Language → String
  | .rust => "rust"
  | .cpp => "c++"
  | .c => "c"

/-- A line of a source file. -/
structure SourceLocation where
  file : String
  line : UInt32
deriving DecidableEq, Repr

/-- The written form of a source location. -/
def SourceLocation.text (location : SourceLocation) : String :=
  location.file ++ ":" ++ toString location.line.toNat

/-- A named piece of memory. -/
structure Symbol where
  /-- The name as it is linked. -/
  name : String
  kind : SymbolKind
  address : UInt64
  /-- The number of bytes. -/
  size : UInt64
  /-- The section it lies in. -/
  sectionName? : Option String
  /-- The object file it was linked from. -/
  object? : Option String
  sourceFile? : Option String
  sourceLine? : Option UInt32
deriving DecidableEq, Repr

namespace Symbol

/-- The same symbol, linked from an object file. -/
def withObject (symbol : Symbol) (object : String) : Symbol :=
  { symbol with object? := some object }

/-- The same symbol, defined at a source location. -/
def withSource (symbol : Symbol) (location : SourceLocation) : Symbol :=
  { symbol with sourceFile? := some location.file, sourceLine? := some location.line }

/-- The address in hexadecimal. -/
def hexAddress (symbol : Symbol) : String := Text.hex symbol.address.toNat

/-- A source location needs both its file and its line. -/
def sourceLocation? (symbol : Symbol) : Option SourceLocation :=
  match symbol.sourceFile?, symbol.sourceLine? with
  | some file, some line => some ⟨file, line⟩
  | _, _ => none

/-- The readable form of a mangled name. -/
def demangled? (symbol : Symbol) : Option String := Mangled.demangle? symbol.name

/-- The name to show. -/
def displayName (symbol : Symbol) : String := symbol.demangled?.getD symbol.name

/-- The language is told by how the name starts, and where two languages share a start, by
whether it demangles. -/
def language (symbol : Symbol) : Language :=
  match symbol.name.toList with
  | '_' :: 'R' :: _ => .rust
  -- Two languages start nested names in this way.
  | '_' :: 'Z' :: 'N' :: _ => if symbol.demangled?.isSome then .rust else .cpp
  | '_' :: 'Z' :: _ => .cpp
  | _ => .c

/-- The written form of a symbol. -/
def text (symbol : Symbol) : String :=
  symbol.displayName ++ " (" ++ symbol.kind.label ++ ", " ++ toString symbol.size.toNat ++
    " bytes @ " ++ symbol.hexAddress ++ ")"

/-- Larger symbols first, and symbols of one size in the order given. -/
def largestFirst (symbols : List Symbol) : List Symbol :=
  -- The sort is stable.
  symbols.mergeSort fun first second => second.size ≤ first.size

end Symbol

end Footprint
