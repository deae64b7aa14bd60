import Footprint.Text.Blank
import Footprint.Text.Search
import Footprint.Text.Word

/-! The lines of a link map: headings, object files, and symbols with their places and sizes. -/

namespace Footprint.LinkMap

/-- Whether a character is a hexadecimal digit of either case. -/
def isHexDigit (char : Char) : Bool :=
  char.isDigit || ('a' ≤ char && char ≤ 'f') || ('A' ≤ char && char ≤ 'F')

/-- The value of a hexadecimal digit. -/
def hexDigitValue (char : Char) : Nat :=
  if char.isDigit then char.toNat - '0'.toNat
  else if 'a' ≤ char then 10 + (char.toNat - 'a'.toNat)
  else 10 + (char.toNat - 'A'.toNat)

/-- The number that hexadecimal digits spell, if it fits a machine word. -/
def hexWord? (digits : List Char) : Option UInt64 :=
  let value := digits.foldl (fun value digit => value * 16 + hexDigitValue digit) 0
  if value < UInt64.size then some (.ofNat value) else none

/-- What follows at least one blank and all blanks after it. -/
def afterBlanks? : List Char → Option (List Char)
  | [] => none
  | first :: rest => if Text.isBlank first then some (rest.dropWhile Text.isBlank) else none

/-- The digits of a hexadecimal number behind its mark, and what follows them. -/
def number? : List Char → Option (List Char × List Char)
  | '0' :: x :: rest =>
    -- The mark alone is no number.
    let digits := rest.takeWhile isHexDigit
    if (x = 'x' ∨ x = 'X') ∧ digits ≠ [] then some (digits, rest.dropWhile isHexDigit) else none
  | _ => none

/-- Two hexadecimal numbers behind blanks. -/
structure Pair where
  first : List Char
  second : List Char
  /-- What follows the numbers. -/
  rest : List Char
deriving DecidableEq, Repr

/-- The two numbers that stand behind blanks at the start of a text. -/
def pair? (chars : List Char) : Option Pair := do
  let (first, chars) ← number? (← afterBlanks? chars)
  let (second, rest) ← number? (← afterBlanks? chars)
  return ⟨first, second, rest⟩

/-- A name with the digits of its address and its size. -/
structure Placement where
  name : List Char
  address : List Char
  size : List Char
deriving DecidableEq, Repr

/-- A symbol on an indented line: a name without blanks, an address and a size. -/
def indentedPlacement? (line : List Char) : Option Placement := do
  let chars ← afterBlanks? line
  -- The name goes up to the next blank, behind which the numbers stand.
  let pair ← pair? (chars.dropWhile (!Text.isBlank ·))
  let name := chars.takeWhile (!Text.isBlank ·)
  if name.isEmpty then none else some ⟨name, pair.first, pair.second⟩

/-- Whether a character can stand in the name of a symbol on a line that is not indented. -/
def isBareNameChar (char : Char) : Bool := char == '.' || Text.isWord char

/-- A symbol on a line that is not indented: a word that does not start with a period, an
address and a size. -/
def barePlacement? (line : List Char) : Option Placement := do
  let pair ← pair? (line.dropWhile isBareNameChar)
  match line.takeWhile isBareNameChar with
  | [] => none
  | '.' :: _ => none
  | name => some ⟨name, pair.first, pair.second⟩

/-- The symbol on a line. -/
def placement? (line : List Char) : Option Placement :=
  match indentedPlacement? line with
  | some placement => some placement
  | none => barePlacement? line

/-- A text up to the last period before an o of either case. -/
def upToLastMark? : List Char → Option (List Char)
  | [] => none
  | char :: rest =>
    match upToLastMark? rest with
    | some found => some (char :: found)
    | none =>
      -- No mark follows, so that one here is the last.
      match rest with
      | o :: _ => if char = '.' ∧ (o = 'o' ∨ o = 'O') then some [char, o] else none
      | [] => none

/-- The path of an object file at the start of a text: one character, and on to the last mark of
an object file. -/
def objectPath? : List Char → Option (List Char)
  | [] => none
  | first :: rest => (upToLastMark? rest).map (first :: ·)

/-- The path behind blanks; where the mark stands right behind them, the last of several blanks
belongs to the path. -/
def objectBehindBlanks? : List Char → Option (List Char)
  | [] => none
  | blank :: rest =>
    if Text.isBlank blank then
      let path := rest.dropWhile Text.isBlank
      match objectPath? path with
      | some found => some found
      | none =>
        match (rest.takeWhile Text.isBlank).getLast? with
        | some last => objectPath? (last :: path)
        | none => none
    else none

/-- The path behind the first pair of numbers that has one behind it. -/
def objectBehindPair? : List Char → Option (List Char)
  | [] => none
  | char :: rest =>
    match (pair? (char :: rest)).bind fun pair => objectBehindBlanks? pair.rest with
    | some found => some found
    | none => objectBehindPair? rest

/-- The object file on a line that starts with a period. -/
def object? : List Char → Option (List Char)
  | '.' :: rest => objectBehindPair? rest
  | _ => none

/-- Whether a line heads the list of symbols. -/
def isHeading (line : List Char) : Bool :=
  Text.occurs "Symbol".toList line && Text.occurs "File".toList line

end Footprint.LinkMap
