import Footprint.Bytes

/-! Reading text out of bytes that need not be well-formed UTF-8. -/

namespace Footprint.Text.Utf8

/-- The mark that stands for bytes that spell no character. -/
def replacement : Char := '\uFFFD'

/-- A character whose first bytes were read and whose remaining ones are still owed. -/
structure Pending where
  /-- The bits collected so far. -/
  value : Nat
  /-- How many bytes come after the next one. -/
  after : Nat
  /-- The least value the next byte may have. -/
  low : UInt8
  /-- The greatest value the next byte may have. -/
  high : UInt8

/-- What the first byte of a character announces: itself, a longer sequence, or nothing. -/
inductive Lead where
  | single (char : Char)
  | opening (pending : Pending)
  | malformed

/-- The second byte is narrowed where a longer form would spell a shorter one's character, a
surrogate, or too large a number. -/
def lead (byte : UInt8) : Lead :=
  if byte < 0x80 then .single (Char.ofNat byte.toNat)
  -- Bytes up to here continue a character, or would start too long a form of one.
  else if byte < 0xC2 then .malformed
  else if byte < 0xE0 then .opening ⟨byte.toNat - 0xC0, 0, 0x80, 0xBF⟩
  else if byte < 0xF0 then
    let low := if byte = 0xE0 then 0xA0 else 0x80
    let high := if byte = 0xED then 0x9F else 0xBF
    .opening ⟨byte.toNat - 0xE0, 1, low, high⟩
  else if byte < 0xF5 then
    let low := if byte = 0xF0 then 0x90 else 0x80
    let high := if byte = 0xF4 then 0x8F else 0xBF
    .opening ⟨byte.toNat - 0xF0, 2, low, high⟩
  else .malformed

/-- The pending character after one more of its bytes. -/
def Pending.push (pending : Pending) (byte : UInt8) : Pending :=
  ⟨pending.value * 64 + (byte.toNat - 0x80), pending.after - 1, 0x80, 0xBF⟩

/-- A text read so far, with the character that is still open behind it. -/
structure Progress where
  text : String
  pending? : Option Pending

/-- A byte that cannot belong to an open character starts over. -/
def Progress.start (text : String) (byte : UInt8) : Progress :=
  match lead byte with
  | .single char => ⟨text.push char, none⟩
  | .opening pending => ⟨text, some pending⟩
  | .malformed => ⟨text.push replacement, none⟩

/-- One more byte completes, extends or breaks the open character. -/
def Progress.push (progress : Progress) (byte : UInt8) : Progress :=
  match progress.pending? with
  | none => start progress.text byte
  | some pending =>
    if pending.low ≤ byte ∧ byte ≤ pending.high then
      let extended := pending.push byte
      if pending.after = 0 then ⟨progress.text.push (Char.ofNat extended.value), none⟩
      else ⟨progress.text, some extended⟩
    else
      -- The bytes of the broken character get one mark together.
      start (progress.text.push replacement) byte

/-- A character still open at the end gets the mark of a broken one. -/
def Progress.finish (progress : Progress) : String :=
  match progress.pending? with
  | none => progress.text
  | some _ => progress.text.push replacement

/-- The text that bytes spell, with one mark for each longest start of a character that is never
completed. -/
def decode (bytes : Bytes) : String :=
  (bytes.foldl Progress.push ⟨"", none⟩).finish

end Footprint.Text.Utf8
