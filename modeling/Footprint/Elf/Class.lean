import Footprint.Cursor

/-! The two classes of images, which differ in the width of addresses and in the layout of their
tables. -/

namespace Footprint.Elf

/-- The class of an image. -/
inductive Class where
  | elf32
  | elf64
deriving DecidableEq, Repr

namespace Class

/-- The name of a class. -/
def label : Class → String
  | .elf32 => "ELF32"
  | .elf64 => "ELF64"

/-- The class with a number. -/
def ofByte? (byte : UInt8) : Option Class :=
  if byte = 1 then some .elf32 else if byte = 2 then some .elf64 else none

/-- The bytes of a file header. -/
def fileHeaderSize : Class → Nat
  | .elf32 => 52
  | .elf64 => 64

/-- The bytes of a section header. -/
def sectionHeaderSize : Class → Nat
  | .elf32 => 40
  | .elf64 => 64

/-- The bytes of a symbol table entry. -/
def symbolEntrySize : Class → Nat
  | .elf32 => 16
  | .elf64 => 24

/-- A number as wide as the addresses of the class. -/
def word : Class → Read UInt64
  | .elf32 => return (← Read.word32).toUInt64
  | .elf64 => Read.word64

end Class

end Footprint.Elf
