import Footprint.Mangled.Punycode

/-! The small pieces of a mangled name: numbers, identifiers and hexadecimal data. -/

namespace Footprint.Mangled

/-- Why a mangled name cannot be read on. -/
inductive Fault where
  /-- The characters fit no rule. -/
  | invalid
  /-- Parts are nested more deeply than a reader follows. -/
  | tooDeep
deriving DecidableEq, Repr

/-- What is written where a name cannot be read on. -/
def Fault.message : Fault → String
  | .invalid => "\x7binvalid syntax\x7d"
  | .tooDeep => "\x7brecursion limit reached\x7d"

/-- Numbers in a name are kept in a machine word. -/
def wordLimit : Nat := UInt64.size

/-- A scan takes characters off the front of what is left of a name. -/
abbrev Scan := StateT (List Char) (Except Fault)

namespace Scan

/-- One character. -/
def next : Scan Char
  | [] => .error .invalid
  | char :: rest => .ok (char, rest)

/-- Takes a given character if it comes next. -/
def eat (char : Char) : Scan Bool
  | [] => .ok (false, [])
  | first :: rest => .ok (if first == char then (true, rest) else (false, first :: rest))

/-- The value of a digit to base 62, which orders digits, lower case and upper case. -/
def digit62? (char : Char) : Option Nat :=
  if '0' ≤ char ∧ char ≤ '9' then some (char.toNat - '0'.toNat)
  else if 'a' ≤ char ∧ char ≤ 'z' then some (10 + (char.toNat - 'a'.toNat))
  else if 'A' ≤ char ∧ char ≤ 'Z' then some (36 + (char.toNat - 'A'.toNat))
  else none

/-- The digits to base 62 up to an underscore spell one less than the number. -/
def integer62From (value : Nat) : Scan Nat
  | [] => .error .invalid
  | char :: rest =>
    if char == '_' then
      if value + 1 < wordLimit then .ok (value + 1, rest) else .error .invalid
    else
      match digit62? char with
      | none => .error .invalid
      | some digit =>
        if value * 62 + digit < wordLimit then integer62From (value * 62 + digit) rest
        else .error .invalid

/-- A number to base 62, where an underscore alone is zero. -/
def integer62 : Scan Nat := do
  if ← eat '_' then return 0
  integer62From 0

/-- A number behind a tag is one more than it says, and zero without the tag. -/
def optionalInteger62 (tag : Char) : Scan Nat := do
  if ← eat tag then
    let value ← integer62
    if value + 1 < wordLimit then return value + 1 else throw .invalid
  else return 0

/-- The number that tells apart parts of one name. -/
def disambiguator : Scan Nat := optionalInteger62 's'

/-- An upper-case namespace is shown, and a lower-case one is not. -/
def nameSpace : Scan (Option Char) := do
  let char ← next
  if 'A' ≤ char ∧ char ≤ 'Z' then return some char
  else if 'a' ≤ char ∧ char ≤ 'z' then return none
  else throw .invalid

/-- The lower-case hexadecimal digits up to an underscore. -/
def hexData : Scan (List Char) := fun chars =>
  let isData := fun (char : Char) => char.isDigit || ('a' ≤ char && char ≤ 'f')
  match chars.dropWhile isData with
  | '_' :: rest => .ok (chars.takeWhile isData, rest)
  | _ => .error .invalid

end Scan

/-- The number that decimal digits spell. -/
def decimal (digits : List Char) : Nat :=
  digits.foldl (fun value digit => value * 10 + (digit.toNat - '0'.toNat)) 0

/-- An identifier with its ASCII part and the insertions that complete it. -/
structure Ident where
  ascii : List Char
  deltas : List Char
deriving DecidableEq, Repr

namespace Ident

/-- Whether an identifier has no characters. -/
def isEmpty (ident : Ident) : Bool := ident.ascii.isEmpty && ident.deltas.isEmpty

/-- The pieces an identifier is written in; insertions that spell no text are shown in their
usual notation. -/
def pieces (ident : Ident) : List String :=
  match Punycode.decode? ident.ascii ident.deltas with
  | some chars => chars.map Char.toString
  | none =>
    let ascii := String.ofList ident.ascii
    if ident.deltas.isEmpty then [ascii]
    else
      let separated := if ident.ascii.isEmpty then [] else [ascii, "-"]
      ["punycode\x7b"] ++ separated ++ [String.ofList ident.deltas, "\x7d"]

/-- The last underscore parts the ASCII characters from the insertions. -/
def ofEncoded (chars : List Char) : Ident :=
  let deltas := (chars.reverse.takeWhile (· != '_')).reverse
  ⟨chars.take (chars.length - deltas.length - 1), deltas⟩

end Ident

/-- The length of an identifier has no leading zeros, so a zero ends it. -/
def Scan.length : Scan Nat := fun chars =>
  match chars with
  | '0' :: rest => .ok (0, rest)
  | _ =>
    match chars.takeWhile Char.isDigit with
    | [] => .error .invalid
    | digits => .ok (decimal digits, chars.dropWhile Char.isDigit)

/-- An identifier: a length, an underscore that is optional, and that many characters. -/
def Scan.ident : Scan Ident := do
  let encoded ← eat 'u'
  let length ← Scan.length
  let _ ← eat '_'
  let chars ← get
  if chars.length < length then throw .invalid
  set (chars.drop length)
  let chars := chars.take length
  if encoded then
    let ident := Ident.ofEncoded chars
    if ident.deltas.isEmpty then throw .invalid
    return ident
  else return ⟨chars, []⟩

/-- The number that hexadecimal digits spell. -/
def hexValue (digits : List Char) : Nat :=
  digits.foldl (fun value digit => value * 16 + (Scan.digit62? digit).getD 0) 0

/-- The number in hexadecimal data, if at most sixteen digits matter. -/
def word? (digits : List Char) : Option Nat :=
  let value := hexValue digits
  if value < wordLimit then some value else none

/-- The bytes in hexadecimal data of whole pairs. -/
def bytePairs? : List Char → Option (List UInt8)
  | [] => some []
  | high :: low :: rest => (bytePairs? rest).map (.ofNat (hexValue [high, low]) :: ·)
  | [_] => none

end Footprint.Mangled
