import Footprint.Elf.Class

/-! Why an input cannot be loaded or a query cannot be answered. -/

namespace Footprint

/-- What keeps bytes from being an image. -/
inductive Elf.Malformation where
  | missingMagic
  /-- A table runs past the end of the file. -/
  | unexpectedEnd (offset : Nat)
  | unsupportedClass (class_ : UInt8)
  | unsupportedEncoding (encoding : UInt8)
  | shortHeader (size : Nat)
  /-- The stride of the section headers is less than one of them. -/
  | shortSectionHeader (stride : Nat) (class_ : Elf.Class)
  | sectionHeaderOutOfRange (index : Nat)
  | nameTableOutOfBounds (index : Nat)
  | symbolTableOutOfBounds
  | stringTableMissing (index : Nat)
  | stringTableOutOfBounds
deriving DecidableEq, Repr

/-- What is said of bytes that are no image. -/
def Elf.Malformation.message : Elf.Malformation → String
  | .missingMagic => "missing \\x7fELF magic"
  | .unexpectedEnd offset => "unexpected end of file at offset " ++ Text.hex offset
  | .unsupportedClass class_ => "unsupported EI_CLASS " ++ toString class_.toNat
  | .unsupportedEncoding encoding =>
    "unsupported EI_DATA " ++ toString encoding.toNat ++ ", only little-endian images are supported"
  | .shortHeader size => "file header truncated at " ++ toString size ++ " bytes"
  | .shortSectionHeader stride class_ =>
    "e_shentsize " ++ toString stride ++ " is smaller than a " ++ class_.label ++ " section header"
  | .sectionHeaderOutOfRange index => "section header " ++ toString index ++ " out of range"
  | .nameTableOutOfBounds index =>
    "section name table (index " ++ toString index ++ ") out of bounds"
  | .symbolTableOutOfBounds => "symbol table out of bounds"
  | .stringTableMissing index =>
    "symbol string table index " ++ toString index ++ " out of range"
  | .stringTableOutOfBounds => "symbol string table out of bounds"

/-- Why the bytes of a file cannot be had. -/
inductive FileFault where
  | missing
  | directory
  /-- Any other refusal, in the words of the system. -/
  | other (description : String)
deriving DecidableEq, Repr

/-- What the system says of a file that cannot be read. -/
def FileFault.message : FileFault → String
  | .missing => "No such file or directory (os error 2)"
  | .directory => "Is a directory (os error 21)"
  | .other description => description

/-- Why an input cannot be loaded or a query cannot be answered. -/
inductive Error where
  | format (cause : Elf.Malformation)
  | elfNotLoaded
  | nothingLoaded
  | noSymbolTable
  | truncated (fault : Truncated)
  | file (cause : FileFault)
deriving DecidableEq, Repr

/-- What is said of an error. -/
def Error.message : Error → String
  | .format cause => "Invalid ELF file: " ++ cause.message
  | .elfNotLoaded => "ELF file not loaded"
  | .nothingLoaded => "No ELF or MAP file loaded"
  | .noSymbolTable => "ELF file has no symbol table"
  | .truncated fault => fault.message
  | .file cause => "IO error: " ++ cause.message

end Footprint
