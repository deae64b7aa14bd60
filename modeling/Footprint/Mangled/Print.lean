import Footprint.Mangled.Scan

/-! Writing a mangled name while it is read, up to a greatest length and past faults. -/

namespace Footprint.Mangled

/-- The text written so far and the number of bytes that may still follow. -/
structure Page where
  text : String
  room : Nat

/-- The most bytes a demangled name takes. -/
def pageSize : Nat := 1000000

/-- Where reading and writing a name stand. -/
structure State where
  /-- The whole name, in which earlier places are named by number. -/
  whole : List Char
  /-- What is left to read, or why nothing more can be read. -/
  rest : Except Fault (List Char)
  /-- The page, unless the name is only being checked. -/
  page? : Option Page
  /-- How many lifetimes are bound around this place. -/
  bound : Nat

/-- Writing stops for good only where the page is full. -/
abbrev Print := EStateM Unit State

namespace Print

/-- A piece goes onto the page whole or fills it. -/
def write (piece : String) : Print Unit := fun state =>
  match state.page? with
  | none => .ok () state
  | some page =>
    if piece.utf8ByteSize ≤ page.room then
      .ok () { state with page? := some ⟨page.text ++ piece, page.room - piece.utf8ByteSize⟩ }
    else .error () state

/-- Several pieces go onto the page one after the other. -/
def writeAll (pieces : List String) : Print Unit := pieces.forM write

/-- Whether a page is being written. -/
def writing : Print Bool := return (← get).page?.isSome

/-- Whether reading can go on. -/
def readable : Print Bool := return (← get).rest.isOk

/-- A new fault is written out and ends the reading. -/
def fail (fault : Fault) : Print Unit := do
  write fault.message
  modify fun state => { state with rest := .error fault }

/-- Goes on with what a scan yields, and where reading has ended writes a mark instead. -/
def reading {α : Type} (scan : Scan α) (use : α → Print Unit) : Print Unit := do
  match (← get).rest with
  | .error _ => write "?"
  | .ok rest =>
    match scan rest with
    | .error fault => fail fault
    | .ok (value, rest) =>
      modify fun state => { state with rest := .ok rest }
      use value

/-- Takes a given character if reading can go on and it comes next. -/
def eat (char : Char) : Print Bool := fun state =>
  match state.rest with
  | .ok (first :: rest) =>
    if first == char then .ok true { state with rest := .ok rest } else .ok false state
  | _ => .ok false state

/-- Puts back the characters read since an earlier state. -/
def rewind (earlier : Except Fault (List Char)) : Print Unit :=
  modify fun state => { state with rest := earlier }

/-- Reads without writing. -/
def silently (print : Print Unit) : Print Unit := do
  let page? := (← get).page?
  modify fun state => { state with page? := none }
  print
  modify fun state => { state with page? }

/-- The earlier place a reference names, which comes before the reference itself. -/
def earlierPlace (whole : List Char) : Scan (List Char) := fun rest => do
  let start := whole.length - rest.length - 1
  let (place, rest) ← Scan.integer62 rest
  if place < start then .ok (whole.drop place, rest) else .error .invalid

/-- Writes what stands at an earlier place of the name; a name that is only checked is not read
twice. -/
def follow {α : Type} (deep : Bool) (print : Print α) : Print (Option α) := do
  let state ← get
  let place : Scan (List Char) := do
    let place ← earlierPlace state.whole
    if deep then throw .tooDeep
    return place
  match state.rest.bind place with
  | .error fault =>
    -- An earlier fault leaves its mark, and a new one its message.
    if ← readable then fail fault else write "?"
    return none
  | .ok (place, resumed) =>
    rewind (.ok resumed)
    if !(← writing) then return none
    rewind (.ok place)
    let value ← print
    rewind (.ok resumed)
    return some value

/-- Items up to the closing letter or to a fault, and their number. -/
def separatedFrom (item : Print Unit) (separator : String) : Nat → Nat → Print Nat
  | 0, count => return count
  | fuel + 1, count => do
    if !(← readable) then return count
    if ← eat 'E' then return count
    if 0 < count then write separator
    item
    separatedFrom item separator fuel (count + 1)

/-- How many characters are left to read. -/
def ahead : Print Nat := do
  match (← get).rest with
  | .ok rest => return rest.length
  | .error _ => return 0

/-- Items up to the closing letter; each item reads a character, which bounds their number. -/
def separated (item : Print Unit) (separator : String) : Print Nat := do
  separatedFrom item separator ((← ahead) + 1) 0

/-- One item or more up to the closing letter; a fault in them is marked once more behind them. -/
def alternativesFrom (item : Print Unit) (separator : String) : Nat → Print Unit
  | 0 => return
  | fuel + 1 => do
    item
    if ← eat 'E' then return
    if ← readable then
      write separator
      alternativesFrom item separator fuel
    else fail .invalid

/-- One item or more up to the closing letter; each but one that fails reads a character, which
bounds their number. -/
def alternatives (item : Print Unit) (separator : String) : Print Unit := do
  alternativesFrom item separator ((← ahead) + 1)

/-- A bound lifetime is named by its distance from the outermost one, by a letter while letters
last. -/
def lifetime (index : Nat) : Print Unit := do
  if ← writing then
    write "'"
    if index = 0 then write "_"
    else
      let bound := (← get).bound
      if bound < index then fail .invalid
      else
        let depth := bound - index
        if depth < 26 then write (Char.ofNat ('a'.toNat + depth)).toString
        else
          write "_"
          write (toString depth)

/-- Binds some more lifetimes and writes their names. -/
def bindLifetimes : Nat → Bool → Print Unit
  | 0, _ => return
  | count + 1, isFirst => do
    if !isFirst then write ", "
    modify fun state => { state with bound := state.bound + 1 }
    lifetime 1
    bindLifetimes count false

/-- Writes under the lifetimes that a binder announces. -/
def inBinder (print : Print Unit) : Print Unit :=
  reading (Scan.optionalInteger62 'G') fun count => do
    if ← writing then
      let outer := (← get).bound
      if 0 < count then
        write "for<"
        bindLifetimes count true
        write "> "
      print
      modify fun state => { state with bound := outer }
    else print

end Print

end Footprint.Mangled
