import Footprint.Mangled.Legacy
import Footprint.Mangled.V0
import Footprint.Text.Search

/-! The readable form of the names that compilers give to functions and data. -/

namespace Footprint.Mangled

/-- The mark that link-time optimisation puts before the number of a module. -/
def moduleMark : List Char := ".llvm.".toList

/-- Whether a character can belong to the number of a module. -/
def isModuleDigit (char : Char) : Bool :=
  char.isDigit || ('A' ≤ char && char ≤ 'F') || char == '@'

/-- A name without the number of a module at its end. -/
def withoutModule (name : List Char) : List Char :=
  match Text.splitAt? moduleMark name with
  | some (before, after) => if after.all isModuleDigit then before else name
  | none => name

/-- A suffix is empty, or starts with a period and holds only visible ASCII characters. -/
def isSuffix : List Char → Bool
  | [] => true
  | first :: rest => first == '.' && rest.all fun char => 0x21 ≤ char.toNat && char.toNat ≤ 0x7E

/-- The readable form of a mangled name, and nothing for any other name. -/
def demangle? (name : String) : Option String := do
  let chars := withoutModule name.toList
  let (path, suffix) ← Legacy.demangle? chars <|> V0.demangle? chars
  if isSuffix suffix then some (path ++ String.ofList suffix) else none

end Footprint.Mangled
