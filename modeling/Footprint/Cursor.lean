import Footprint.Text.Number
import Footprint.Text.Utf8

/-! A cursor reads numbers and texts forward over a run of bytes, least significant byte first. -/

namespace Footprint

/-- A read needed bytes past the end, and the place it is blamed on. -/
structure Truncated where
  offset : Nat
deriving DecidableEq, Repr

/-- What is said of bytes that ran out. -/
def Truncated.message (fault : Truncated) : String :=
  "Unexpected end of data at offset " ++ Text.hex fault.offset

/-- A place in a run of bytes. -/
structure Cursor where
  data : Bytes
  position : Nat
deriving DecidableEq, Repr

/-- A read moves a cursor and yields a value, or yields the place where the bytes ran out. -/
abbrev Read := EStateM Truncated Cursor

namespace Cursor

/-- A cursor at the first byte. -/
def ofBytes (data : Bytes) : Cursor := ⟨data, 0⟩

/-- How many bytes lie ahead. -/
def remaining (cursor : Cursor) : Nat := cursor.data.size - cursor.position

/-- The bytes ahead. -/
def rest (cursor : Cursor) : List UInt8 := cursor.data.toList.drop cursor.position

/-- Whether no byte lies ahead. -/
def atEnd (cursor : Cursor) : Bool := cursor.data.size ≤ cursor.position

/-- The next byte, which stays ahead. -/
def peek? (cursor : Cursor) : Option UInt8 := cursor.data[cursor.position]?

/-- The cursor some bytes further on. -/
def advance (cursor : Cursor) (count : Nat) : Cursor :=
  { cursor with position := cursor.position + count }

/-- A cursor at a chosen place, which may be the end but not past it. -/
def at? (data : Bytes) (position : Nat) : Except Truncated Cursor :=
  if position ≤ data.size then .ok ⟨data, position⟩ else .error ⟨position⟩

end Cursor

namespace Read

/-- A read that fails here leaves the cursor where it is. -/
def bytes (count : Nat) : Read Bytes := fun cursor =>
  -- Either all of the bytes are there, or none is taken.
  let stop := cursor.position + count
  if stop ≤ cursor.data.size then
    .ok (cursor.data.slice cursor.position stop) (cursor.advance count)
  else .error ⟨cursor.position⟩ cursor

/-- Moves past some bytes. -/
def skip (count : Nat) : Read Unit := do
  let _ ← bytes count

/-- Moves to a place in the bytes, and blames a place past the end on itself. -/
def seek (position : Nat) : Read Unit := fun cursor =>
  if position ≤ cursor.data.size then .ok () { cursor with position }
  else .error ⟨position⟩ cursor

/-- Whether no byte lies ahead. -/
def atEnd : Read Bool := return (← get).atEnd

/-- The place the cursor stands at. -/
def position : Read Nat := return (← get).position

/-- One byte. -/
def byte : Read UInt8 := fun cursor =>
  match cursor.peek? with
  | some value => .ok value (cursor.advance 1)
  | none => .error ⟨cursor.position⟩ cursor

/-- One byte in two's complement. -/
def signedByte : Read Int8 := return (← byte).toInt8

/-- A number of a whole number of bytes. -/
def unsigned (width : Nat) : Read Nat :=
  return Bytes.littleEndian (← bytes width).toList

/-- Two bytes. -/
def word16 : Read UInt16 := return .ofNat (← unsigned 2)

/-- Four bytes. -/
def word32 : Read UInt32 := return .ofNat (← unsigned 4)

/-- Eight bytes. -/
def word64 : Read UInt64 := return .ofNat (← unsigned 8)

/-- An address of any width, of which the lowest eight bytes count. -/
def address (width : Nat) : Read UInt64 :=
  return .ofNat (Bytes.littleEndian ((← bytes width).toList.take 8))

/-- The text up to the next zero byte, which is read too. -/
def text : Read String := fun cursor =>
  match cursor.data.terminator? cursor.position with
  | some stop =>
    -- The text leaves the zero out, and the cursor passes it.
    .ok (Text.Utf8.decode (cursor.data.slice cursor.position stop))
      { cursor with position := stop + 1 }
  -- A text that never ends is blamed on its start.
  | none => .error ⟨cursor.position⟩ cursor

/-- A number of values, each read like the first, behind those already read. -/
def several {α : Type} (read : Read α) : Nat → Array α → Read (Array α)
  | 0, values => return values
  | count + 1, values => do several read count (values.push (← read))

end Read

namespace Bytes

/-- The text at an offset of a string table, which ends at a zero byte or with the table. -/
def textAt (table : Bytes) (offset : Nat) : String :=
  Text.Utf8.decode (table.slice offset ((table.terminator? offset).getD table.size))

end Bytes

end Footprint
