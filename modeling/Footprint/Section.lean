import Footprint.Text.Number

/-! Named sections of an image. -/

namespace Footprint

/-- A named part of an image. -/
structure Section where
  name : String
  address : UInt64
  /-- The number of bytes. -/
  size : UInt64
  /-- Whether it takes memory when the image runs. -/
  needsLoad : Bool
  /-- The number of its type. -/
  type : UInt32
  flags : UInt64
deriving DecidableEq, Repr

namespace Section

/-- The type of a section that has memory but no bytes in the file. -/
def noBits : UInt32 := 8

/-- The flag of a section that takes memory when the image runs. -/
def allocated : UInt64 := 2

/-- Whether a section's bytes stand in the file. -/
def occupiesFile (area : Section) : Bool := area.type != noBits

/-- The written form of a section. -/
def text (area : Section) : String :=
  area.name ++ " @ " ++ Text.hex area.address.toNat ++ " (" ++ toString area.size.toNat ++ " bytes)"

end Section

end Footprint
