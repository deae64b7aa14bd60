import Footprint.Mangled.Print
import Footprint.Text.Quoted

/-! The paths, types and constants of the second mangling scheme, written as they are read. -/

namespace Footprint.Mangled

open Print

/-- How many parts may be nested in one another. -/
def deepest : Nat := 500

/-- The types that one letter stands for. -/
def basicType? : Char → Option String
  | 'b' => some "bool"
  | 'c' => some "char"
  | 'e' => some "str"
  | 'u' => some "()"
  | 'a' => some "i8"
  | 's' => some "i16"
  | 'l' => some "i32"
  | 'x' => some "i64"
  | 'n' => some "i128"
  | 'i' => some "isize"
  | 'h' => some "u8"
  | 't' => some "u16"
  | 'm' => some "u32"
  | 'y' => some "u64"
  | 'o' => some "u128"
  | 'j' => some "usize"
  | 'f' => some "f32"
  | 'd' => some "f64"
  | 'z' => some "!"
  | 'p' => some "_"
  | 'v' => some "..."
  | _ => none

/-- The word for a namespace that is shown. -/
def nameSpaceWord : Char → String
  | 'C' => "closure"
  | 'S' => "shim"
  | other => other.toString

/-- A part that has a namespace and a number of its own. -/
def specialName (space : Char) (number : Nat) (name : Ident) : Print Unit := do
  write "::\x7b"
  write (nameSpaceWord space)
  if !name.isEmpty then
    write ":"
    writeAll name.pieces
  write "#"
  write (toString number)
  write "\x7d"

/-- The name after a path; one in a hidden namespace is left out where it is empty. -/
def nestedName (space : Option Char) : Print Unit := do
  -- A mark for an earlier fault gets its separator here, where a name would get it below.
  if !(← readable) then write "::"
  reading Scan.disambiguator fun number =>
    reading Scan.ident fun name => do
      match space with
      | some space => specialName space number name
      | none =>
        if !name.isEmpty then
          write "::"
          writeAll name.pieces

/-- A calling convention is written with hyphens for its underscores. -/
def callingConvention (name : List Char) : Print Unit := do
  write "extern \""
  match (String.ofList name).splitOn "_" with
  | [] => write ""
  | first :: others =>
    write first
    for other in others do
      write "-"
      write other
  write "\" "

/-- The kinds of calling convention that a function type names. -/
inductive Convention where
  | plain
  | c
  | named (name : List Char)

/-- A function type after its binder. -/
def functionType (type : Print Unit) : Print Unit := do
  let isUnsafe ← eat 'U'
  let body (convention : Convention) : Print Unit := do
    if isUnsafe then write "unsafe "
    match convention with
    | .plain => pure ()
    | .c => callingConvention ['C']
    | .named name => callingConvention name
    write "fn("
    let _ ← separated type ", "
    write ")"
    -- The empty tuple as a result is not written.
    if !(← eat 'u') then
      write " -> "
      type
  if ← eat 'K' then
    if ← eat 'C' then body .c
    else
      reading Scan.ident fun name => do
        if name.ascii.isEmpty || !name.deltas.isEmpty then fail .invalid
        else body (.named name.ascii)
  else body .plain

/-- A lifetime, a constant or a type in a list of generic arguments. -/
def genericArgument (type const : Print Unit) : Print Unit := do
  if ← eat 'L' then reading Scan.integer62 lifetime
  else if ← eat 'K' then const
  else type

/-- The types and constants that a trait fixes for its members, then the bracket that closes its
arguments. -/
def boundMembers (type const : Print Unit) : Nat → Bool → Print Unit
  | 0, isOpen => if isOpen then write ">" else pure ()
  | fuel + 1, isOpen => do
    if ← eat 'p' then
      write (if isOpen then ", " else "<")
      reading Scan.ident fun name => do
        writeAll name.pieces
        write " = "
        if ← eat 'K' then const else type
        boundMembers type const fuel true
    else if isOpen then write ">"

/-- A tuple of one item keeps its comma. -/
def tuple (item : Print Unit) : Print Unit := do
  write "("
  let count ← separated item ", "
  if count = 1 then write ","
  write ")"

/-- A number in decimal, or as it stands if it is wider than a word. -/
def constNumber : Print Unit :=
  reading Scan.hexData fun digits => do
    match word? digits with
    | some value => write (toString value)
    | none =>
      write "0x"
      write (String.ofList digits)

/-- Characters between quotes. -/
def quotedText (quote : Char) (chars : List Char) : Print Unit :=
  writeAll ((Text.quoted quote chars).toList.map Char.toString)

/-- A text given by the bytes of its UTF-8 form. -/
def constText : Print Unit :=
  reading Scan.hexData fun digits =>
    match (bytePairs? digits).bind fun bytes => String.fromUTF8? ⟨bytes.toArray⟩ with
    | some text => quotedText '"' text.toList
    | none => fail .invalid

/-- A truth value given by its number. -/
def constBool : Print Unit :=
  reading Scan.hexData fun digits =>
    match word? digits with
    | some 0 => write "false"
    | some 1 => write "true"
    | _ => fail .invalid

/-- A character given by its code point. -/
def constChar : Print Unit :=
  reading Scan.hexData fun digits =>
    match word? digits with
    | some code => if code.isValidChar then quotedText '\'' [Char.ofNat code] else fail .invalid
    | none => fail .invalid

/-- A field of a structure constant. -/
def constField (const : Print Unit) : Print Unit :=
  reading Scan.disambiguator fun _ =>
    reading Scan.ident fun name => do
      writeAll name.pieces
      write ": "
      const

/-- The fields after the path of a structure or variant constant. -/
def constFields (const : Print Unit) (close : Print Unit) : Print Unit :=
  reading Scan.next fun tag => do
    match tag with
    | 'U' => close
    | 'T' =>
      write "("
      let _ ← separated const ", "
      write ")"
      close
    | 'S' =>
      write " \x7b "
      let _ ← separated (constField const) ", "
      write " \x7d"
      close
    | _ => fail .invalid

/-- A lifetime that is named only where it is not the least one. -/
def referenceLifetime (type : Print Unit) : Print Unit := do
  if ← eat 'L' then
    reading Scan.integer62 fun index => do
      if index != 0 then
        lifetime index
        write " "
      type
  else type

/-- The lifetime that bounds a trait object. -/
def objectLifetime : Print Unit := do
  if ← eat 'L' then
    reading Scan.integer62 fun index => do
      if index != 0 then
        write " + "
        lifetime index
  else fail .invalid

mutual

/-- A path, of which generic arguments get a double colon where it names a value. -/
def path (level : Nat) (inValue : Bool) : Print Unit :=
  match level with
  | 0 => reading (throw .tooDeep : Scan Unit) fun _ => pure ()
  | level + 1 =>
    reading Scan.next fun tag => do
      match tag with
      | 'C' =>
        reading Scan.disambiguator fun _ => reading Scan.ident fun name => writeAll name.pieces
      | 'N' =>
        reading Scan.nameSpace fun space => do
          path level inValue
          nestedName space
      | 'M' =>
        reading Scan.disambiguator fun _ => do
          silently (path level false)
          write "<"
          type level
          write ">"
      | 'X' =>
        reading Scan.disambiguator fun _ => do
          silently (path level false)
          write "<"
          type level
          write " as "
          path level false
          write ">"
      | 'Y' =>
        write "<"
        type level
        write " as "
        path level false
        write ">"
      | 'I' =>
        path level inValue
        if inValue then write "::"
        write "<"
        let _ ← separated (genericArgument (type level) (const level false)) ", "
        write ">"
      | 'B' =>
        match level with
        | 0 => let _ ← follow true (pure ())
        | below + 1 => let _ ← follow false (path below inValue)
      | _ => fail .invalid
termination_by (level, 0)

/-- A type, which at most one marker for spread arguments precedes; the marker is no part that
nests. -/
def type (level : Nat) : Print Unit := do
  let start := (← get).rest
  reading Scan.next fun tag => do
    if tag == 'w' then
      write "#[splat] "
      let start := (← get).rest
      reading Scan.next fun tag => plainType level start tag
    else plainType level start tag
termination_by (level, 1)

/-- A type by its first letter, before which the name stood at a given place. -/
def plainType (level : Nat) (start : Except Fault (List Char)) (tag : Char) : Print Unit := do
  match basicType? tag, level with
  | some name, _ => write name
  | none, 0 => fail .tooDeep
  | none, level + 1 =>
    match tag with
    | 'R' =>
      write "&"
      referenceLifetime (type level)
    | 'Q' =>
      write "&"
      referenceLifetime do
        write "mut "
        type level
    | 'P' =>
      write "*"
      write "const "
      type level
    | 'O' =>
      write "*"
      write "mut "
      type level
    | 'A' =>
      write "["
      type level
      write "; "
      const level true
      write "]"
    | 'S' =>
      write "["
      type level
      write "]"
    | 'T' => tuple (type level)
    | 'F' => inBinder (functionType (type level))
    | 'D' =>
      write "dyn "
      inBinder do
        let _ ← separated (traitObject level) " + "
      objectLifetime
    | 'B' =>
      match level with
      | 0 => let _ ← follow true (pure ())
      | below + 1 => let _ ← follow false (type below)
    | 'W' =>
      type level
      write " is "
      pattern level
    | _ =>
      -- The letter belongs to the path that the type is.
      rewind start
      path level false
termination_by (level, 0)

/-- A trait whose generic arguments are left open, and whether it has any. -/
def openTrait (level : Nat) : Print Bool := do
  if ← eat 'B' then
    match level with
    | 0 =>
      let _ ← follow true (pure ())
      return false
    | below + 1 => return (← follow false (openTrait below)).getD false
  else if ← eat 'I' then
    path level false
    write "<"
    let _ ← separated (genericArgument (type level) (const level false)) ", "
    return true
  else
    path level false
    return false
termination_by (level, 2)

/-- A trait with the types and constants it fixes for its members. -/
def traitObject (level : Nat) : Print Unit := do
  let isOpen ← openTrait level
  boundMembers (type level) (const level false) ((← ahead) + 1) isOpen
termination_by (level, 3)

/-- The values that a type is restricted to; of the patterns only a choice nests. -/
def pattern (level : Nat) : Print Unit :=
  reading Scan.next fun tag => do
    match tag with
    | 'R' =>
      const level false
      write "..="
      const level false
    | 'O' =>
      match level with
      | 0 => fail .tooDeep
      | level + 1 => alternatives (pattern level) " | "
    | 'N' => write "!null"
    | _ => fail .invalid
termination_by (level, 1)

/-- A constant, which stands in braces outside of an expression unless it is a plain value. -/
def const (level : Nat) (inExpression : Bool) : Print Unit :=
  reading Scan.next fun tag => do
    let openBrace : Print Unit := if inExpression then pure () else write "\x7b"
    let closeBrace : Print Unit := if inExpression then pure () else write "\x7d"
    match level with
    | 0 => fail .tooDeep
    | level + 1 =>
      match tag with
      | 'p' => write "_"
      | 'h' | 't' | 'm' | 'y' | 'o' | 'j' => constNumber
      | 'a' | 's' | 'l' | 'x' | 'n' | 'i' =>
        if ← eat 'n' then write "-"
        constNumber
      | 'b' => constBool
      | 'c' => constChar
      | 'e' =>
        openBrace
        -- A text constant is a reference, so the text itself is what it refers to.
        write "*"
        constText
        closeBrace
      | 'R' =>
        if ← eat 'e' then constText
        else
          openBrace
          write "&"
          const level true
          closeBrace
      | 'Q' =>
        openBrace
        write "&"
        write "mut "
        const level true
        closeBrace
      | 'A' =>
        openBrace
        write "["
        let _ ← separated (const level true) ", "
        write "]"
        closeBrace
      | 'T' =>
        openBrace
        tuple (const level true)
        closeBrace
      | 'V' =>
        openBrace
        path level true
        constFields (const level true) closeBrace
      | 'B' =>
        match level with
        | 0 => let _ ← follow true (pure ())
        | below + 1 => let _ ← follow false (const below inExpression)
      | _ => fail .invalid
termination_by (level, 0)

end

end Footprint.Mangled
