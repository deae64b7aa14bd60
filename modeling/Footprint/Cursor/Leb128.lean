import Footprint.Cursor

/-! Numbers of variable length: seven bits a byte, lowest first, and a high bit on all bytes but
the last. -/

namespace Footprint

namespace Leb128

/-- Whether more bytes follow this one. -/
def continues (byte : UInt8) : Bool := byte &&& 0x80 != 0

/-- The seven bits a byte carries. -/
def payload (byte : UInt8) : UInt64 := (byte &&& 0x7F).toUInt64

/-- Whether the last byte of a signed number makes it negative. -/
def negative (byte : UInt8) : Bool := byte &&& 0x40 != 0

/-- The bits collected from the bytes read so far. -/
structure Digits where
  /-- The lowest sixty-four bits. -/
  value : UInt64
  /-- How many bits were read, of which those past the sixty-fourth are lost. -/
  width : Nat
  /-- The last byte. -/
  last : UInt8

/-- Bits that no longer fit are dropped, so the shift never reaches the width of the word. -/
def Digits.push (digits : Digits) (byte : UInt8) : Digits where
  value :=
    if digits.width < 64 then digits.value ||| payload byte <<< digits.width.toUInt64
    else digits.value
  width := digits.width + 7
  last := byte

/-- The unsigned number is the collected bits. -/
def Digits.unsigned (digits : Digits) : UInt64 := digits.value

/-- The signed number repeats the sign bit of the last byte in all higher bits. -/
def Digits.signed (digits : Digits) : Int64 :=
  -- A number as wide as the word has no higher bits left to fill.
  if digits.width < 64 ∧ negative digits.last then
    (digits.value ||| (-1 : UInt64) <<< digits.width.toUInt64).toInt64
  else digits.value.toInt64

/-- Bytes are taken up to the first that does not continue, and a missing one is blamed on the
start. -/
def collect (start : Nat) (cursor : Cursor) (digits : Digits) :
    EStateM.Result Truncated Cursor Digits :=
  if inside : cursor.position < cursor.data.size then
    let byte := cursor.data[cursor.position]
    let digits := digits.push byte
    if continues byte then collect start (cursor.advance 1) digits
    else .ok digits (cursor.advance 1)
  else
    -- The last byte read asked for another one.
    .error ⟨start⟩ cursor
termination_by cursor.data.size - cursor.position
decreasing_by simp only [Cursor.advance]; omega

end Leb128

namespace Read

/-- The digits of one number; a failed read leaves the cursor at the end. -/
def digits : Read Leb128.Digits := fun cursor =>
  Leb128.collect cursor.position cursor ⟨0, 0, 0⟩

/-- An unsigned number of variable length. -/
def unsignedLeb : Read UInt64 := return (← digits).unsigned

/-- A signed number of variable length. -/
def signedLeb : Read Int64 := return (← digits).signed

end Read

end Footprint
