/-! Numbers as text: lower-case hexadecimal digits, with or without leading zeros. -/

namespace Footprint.Text

/-- The hexadecimal digits of a number, without leading zeros. -/
def hexDigits (value : Nat) : String := String.ofList (Nat.toDigits 16 value)

/-- A number in hexadecimal behind its mark. -/
def hex (value : Nat) : String := "0x" ++ hexDigits value

/-- A number in hexadecimal behind its mark, with zeros up to eight digits. -/
def hex8 (value : Nat) : String :=
  let digits := Nat.toDigits 16 value
  "0x" ++ String.ofList (List.replicate (8 - digits.length) '0' ++ digits)

end Footprint.Text
