import Footprint.Elf.SectionHeader
import Footprint.Symbol

/-! The symbols of an image, from the entries of its first symbol table. -/

namespace Footprint.Elf

/-- The fields of a symbol table entry, of which those as wide as an address are widened to
eight bytes. -/
structure SymbolEntry where
  /-- The place of the name in the table of names. -/
  name : UInt32
  value : UInt64
  size : UInt64
  info : UInt8
  other : UInt8
  /-- The index of the section that the symbol lies in. -/
  sectionIndex : UInt16
deriving DecidableEq, Repr

namespace SymbolEntry

/-- The fields in their order in the file, which depends on the class. -/
def read : Class → Read SymbolEntry
  | .elf32 => do
    let name ← Read.word32
    let value ← Class.elf32.word
    let size ← Class.elf32.word
    let info ← Read.byte
    let other ← Read.byte
    let sectionIndex ← Read.word16
    return { name, value, size, info, other, sectionIndex }
  | .elf64 => do
    let name ← Read.word32
    let info ← Read.byte
    let other ← Read.byte
    let sectionIndex ← Read.word16
    let value ← Class.elf64.word
    let size ← Class.elf64.word
    return { name, value, size, info, other, sectionIndex }

/-- The name of a section that has a header and a name; index zero stands for no section. -/
def sectionName? (sectionNames : Array String) (index : UInt16) : Option String :=
  if index = 0 then none
  else (sectionNames[index.toNat]?).filter fun name => !name.isEmpty

/-- The symbol of an entry with a size and a name. -/
def symbol? (strings : Bytes) (sectionNames : Array String) (entry : SymbolEntry) : Option Symbol :=
  let name := strings.textAt entry.name.toNat
  -- Entries for files, sections and undefined symbols have no size or no name.
  if entry.size = 0 ∨ name.isEmpty then none
  else some
    { name
      kind := .ofInfo entry.info
      address := entry.value
      size := entry.size
      sectionName? := sectionName? sectionNames entry.sectionIndex
      object? := none
      sourceFile? := none
      sourceLine? := none }

/-- The entry at an index of a table. -/
def readAt (class_ : Class) (table : Bytes) (index : Nat) : Except Error SymbolEntry :=
  let start := index * class_.symbolEntrySize
  match read class_ (.ofBytes (table.slice start (start + class_.symbolEntrySize))) with
  | .ok entry _ => .ok entry
  | .error fault _ => .error (.truncated fault)

/-- The whole entries of a table; a rest that is no whole entry is left out. -/
def readAll (class_ : Class) (table : Bytes) : Except Error (List SymbolEntry) :=
  (List.range (table.size / class_.symbolEntrySize)).mapM (readAt class_ table)

end SymbolEntry

/-- The contents of the first symbol table and of the table of its names. -/
def symbolTable? (data : Bytes) (headers : Array SectionHeader) :
    Except Error (Option (Bytes × Bytes)) := do
  match headers.find? SectionHeader.isSymbolTable with
  | none => return none
  | some symbols =>
    let some table := symbols.contents? data
      | throw (.format .symbolTableOutOfBounds)
    -- The link of a symbol table is the index of the section with the names.
    let some linked := headers[symbols.link.toNat]?
      | throw (.format (.stringTableMissing symbols.link.toNat))
    let some strings := linked.contents? data
      | throw (.format .stringTableOutOfBounds)
    return some (table, strings)

/-- The symbols of an image, larger ones first; without a symbol table there are none to speak
of. -/
def symbols? (data : Bytes) (file : Header) (headers : Array SectionHeader)
    (sectionNames : Array String) : Except Error (Option (List Symbol)) := do
  match ← symbolTable? data headers with
  | none => return none
  | some (table, strings) =>
    let entries ← SymbolEntry.readAll file.class_ table
    return some (Symbol.largestFirst (entries.filterMap (SymbolEntry.symbol? strings sectionNames)))

end Footprint.Elf
