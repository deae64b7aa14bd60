import Footprint.Mangled.Scan

/-! The first mangling scheme: names of a path one after the other, each behind its length. -/

namespace Footprint.Mangled.Legacy

/-- What follows the digits of a length is shorter than what starts with them. -/
private theorem dropDigits_length {first : Char} {tail : List Char} (digit : first.isDigit) :
    ((first :: tail).dropWhile Char.isDigit).length ≤ tail.length := by
  -- The first digit is dropped, and the rest of the drop only shortens.
  rw [List.dropWhile_cons_of_pos digit]
  exact (List.dropWhile_sublist _).length_le

/-- The names of a path up to the closing letter, and what follows it. -/
def elements? (chars : List Char) : Option (List (List Char) × List Char) :=
  match chars with
  | [] => none
  | 'E' :: suffix => some ([], suffix)
  | first :: tail =>
    if first.isDigit then
      let length := decimal ((first :: tail).takeWhile Char.isDigit)
      let rest := (first :: tail).dropWhile Char.isDigit
      -- Behind a name stands another character, which starts the next name or closes the path.
      if length < rest.length then do
        let (names, suffix) ← elements? (rest.drop length)
        return (rest.take length :: names, suffix)
      else none
    else none
termination_by chars.length
decreasing_by
  have shorter : ((first :: tail).dropWhile Char.isDigit).length ≤ tail.length :=
    dropDigits_length (by assumption)
  simp only [List.length_drop, List.length_cons]
  omega

/-- Whether a name is the hash that tells apart versions of one path. -/
def isHash : List Char → Bool
  | 'h' :: digits => digits.all fun digit =>
      digit.isDigit || ('a' ≤ digit && digit ≤ 'f') || ('A' ≤ digit && digit ≤ 'F')
  | _ => false

/-- The character that lower-case hexadecimal digits name, unless it is a control character. -/
def codePoint? (digits : List Char) : Option String :=
  let isData := fun (char : Char) => char.isDigit || ('a' ≤ char && char ≤ 'f')
  let code := hexValue digits
  let isControl := code < 0x20 || (0x7F ≤ code && code < 0xA0)
  if digits.isEmpty || !digits.all isData || !code.isValidChar || isControl then none
  else some (Char.ofNat code).toString

/-- The text that stands for an escape. -/
def escape? : List Char → Option String
  | ['S', 'P'] => some "@"
  | ['B', 'P'] => some "*"
  | ['R', 'F'] => some "&"
  | ['L', 'T'] => some "<"
  | ['G', 'T'] => some ">"
  | ['L', 'P'] => some "("
  | ['R', 'P'] => some ")"
  | ['C'] => some ","
  | 'u' :: digits => codePoint? digits
  | _ => none

/-- The text of a name after its start; from an escape that is not known on, it stands as it is. -/
def unescape (chars : List Char) : String :=
  match chars with
  | [] => ""
  | '.' :: '.' :: rest => "::" ++ unescape rest
  | '$' :: rest =>
    match _closing : rest.dropWhile (· != '$') with
    | [] => String.ofList chars
    | _ :: after =>
      match escape? (rest.takeWhile (· != '$')) with
      | some text => text ++ unescape after
      | none => String.ofList chars
  | char :: rest => char.toString ++ unescape rest
termination_by chars.length
decreasing_by
  · simp only [List.length_cons]
    omega
  · have shorter := (List.dropWhile_sublist (l := rest) (· != '$')).length_le
    rw [_closing] at shorter
    simp only [List.length_cons] at shorter ⊢
    omega
  · simp only [List.length_cons]
    omega

/-- An underscore in front of an escape only keeps the name from starting with it. -/
def elementText : List Char → String
  | '_' :: '$' :: rest => unescape ('$' :: rest)
  | chars => unescape chars

/-- A path without its hash. -/
def pathText (names : List (List Char)) : String :=
  let shown := if (names.getLast?.map isHash).getD false then names.dropLast else names
  "::".intercalate (shown.map elementText)

/-- The path in a name of this scheme, and what follows it. -/
def demangle? (name : List Char) : Option (String × List Char) := do
  let inner ← match name with
    | '_' :: 'Z' :: 'N' :: inner => some inner
    | 'Z' :: 'N' :: inner => some inner
    | '_' :: '_' :: 'Z' :: 'N' :: inner => some inner
    | _ => none
  if inner.any (0x80 ≤ ·.toNat) then none
  let (names, suffix) ← elements? inner
  return (pathText names, suffix)

end Footprint.Mangled.Legacy
