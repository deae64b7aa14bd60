import Footprint.Text.Utf8

/-! Text written in UTF-8 reads back as it was. -/

namespace Footprint.Text.Utf8

/-- The bytes of a text. -/
def encode (text : String) : List UInt8 := text.toList.flatMap String.utf8EncodeChar

/-- A byte taken from a number below 256 has that number. -/
private theorem toNat_byte (value : Nat) (small : value < 256) :
    (UInt8.ofNat value).toNat = value := by
  simpa using Nat.mod_eq_of_lt small

/-- The first byte of a character of two bytes owes one more. -/
private theorem lead_two {value : Nat} (low : 0xC2 ≤ value) (high : value < 0xE0) :
    lead (UInt8.ofNat value) = .opening ⟨value - 0xC0, 0, 0x80, 0xBF⟩ := by
  have number := toNat_byte value (by omega)
  -- Only the third of the ranges that the first byte is sought in holds it.
  rw [lead, if_neg, if_neg, if_pos, number]
  all_goals
    simp only [UInt8.lt_iff_toNat_lt, number, UInt8.toNat_ofNat]
    omega

/-- The first byte of a character of three bytes owes two more, the next of them in a range. -/
private theorem lead_three (value : Nat) (low : 0xE0 ≤ value) (high : value < 0xF0) :
    ∃ least greatest : UInt8,
      lead (UInt8.ofNat value) = .opening ⟨value - 0xE0, 1, least, greatest⟩ ∧
      least.toNat = (if value = 0xE0 then 0xA0 else 0x80) ∧
      greatest.toNat = (if value = 0xED then 0x9F else 0xBF) := by
  have number := toNat_byte value (by omega)
  -- The first of these bytes rules out numbers that need fewer, another one the surrogates.
  refine ⟨if UInt8.ofNat value = 0xE0 then 0xA0 else 0x80,
    if UInt8.ofNat value = 0xED then 0x9F else 0xBF, ?_, ?_, ?_⟩
  · rw [lead, if_neg, if_neg, if_neg, if_pos, number]
    all_goals
      simp only [UInt8.lt_iff_toNat_lt, number, UInt8.toNat_ofNat]
      omega
  · simp only [← UInt8.toNat_inj, number, UInt8.toNat_ofNat]
    split <;> rfl
  · simp only [← UInt8.toNat_inj, number, UInt8.toNat_ofNat]
    split <;> rfl

/-- The first byte of a character of four bytes owes three more, the next of them in a range. -/
private theorem lead_four (value : Nat) (low : 0xF0 ≤ value) (high : value < 0xF5) :
    ∃ least greatest : UInt8,
      lead (UInt8.ofNat value) = .opening ⟨value - 0xF0, 2, least, greatest⟩ ∧
      least.toNat = (if value = 0xF0 then 0x90 else 0x80) ∧
      greatest.toNat = (if value = 0xF4 then 0x8F else 0xBF) := by
  have number := toNat_byte value (by omega)
  -- The first of these bytes rules out numbers that need fewer, the last one those past the end.
  refine ⟨if UInt8.ofNat value = 0xF0 then 0x90 else 0x80,
    if UInt8.ofNat value = 0xF4 then 0x8F else 0xBF, ?_, ?_, ?_⟩
  · rw [lead, if_neg, if_neg, if_neg, if_neg, if_pos, number]
    all_goals
      simp only [UInt8.lt_iff_toNat_lt, number, UInt8.toNat_ofNat]
      omega
  · simp only [← UInt8.toNat_inj, number, UInt8.toNat_ofNat]
    split <;> rfl
  · simp only [← UInt8.toNat_inj, number, UInt8.toNat_ofNat]
    split <;> rfl

/-- A number between two bytes is a byte between them. -/
private theorem byte_between {least greatest : UInt8} {next : Nat} (low : least.toNat ≤ next)
    (high : next ≤ greatest.toNat) :
    (least ≤ UInt8.ofNat next ∧ UInt8.ofNat next ≤ greatest) ∧
      (UInt8.ofNat next).toNat = next := by
  -- The upper byte is below 256, and the number is not above it.
  have bound := greatest.toNat_lt
  have number := toNat_byte next (by omega)
  refine ⟨?_, number⟩
  simp only [UInt8.le_iff_toNat_le, number]
  exact ⟨low, high⟩

/-- A byte in the range of an open character that owes more bytes extends it. -/
private theorem push_extends {text : String} {value after next : Nat} {least greatest : UInt8}
    (low : least.toNat ≤ next) (high : next ≤ greatest.toNat) (open_ : after ≠ 0) :
    Progress.push ⟨text, some ⟨value, after, least, greatest⟩⟩ (UInt8.ofNat next) =
      ⟨text, some ⟨value * 64 + (next - 0x80), after - 1, 0x80, 0xBF⟩⟩ := by
  obtain ⟨inside, number⟩ := byte_between low high
  rw [Progress.push]
  dsimp only
  rw [if_pos inside, if_neg open_]
  dsimp only [Pending.push]
  rw [number]

/-- A byte in the range of an open character that owes no other completes it. -/
private theorem push_completes {text : String} {value next : Nat} {least greatest : UInt8}
    (low : least.toNat ≤ next) (high : next ≤ greatest.toNat) :
    Progress.push ⟨text, some ⟨value, 0, least, greatest⟩⟩ (UInt8.ofNat next) =
      ⟨text.push (Char.ofNat (value * 64 + (next - 0x80))), none⟩ := by
  obtain ⟨inside, number⟩ := byte_between low high
  rw [Progress.push]
  dsimp only
  rw [if_pos inside, if_pos rfl]
  dsimp only [Pending.push]
  rw [number]

/-- The bytes of a character put it behind the text read so far. -/
theorem foldl_utf8EncodeChar (text : String) (char : Char) :
    (String.utf8EncodeChar char).foldl Progress.push ⟨text, none⟩ = ⟨text.push char, none⟩ := by
  have valid : char.toNat < 0xD800 ∨ (0xDFFF < char.toNat ∧ char.toNat < 0x110000) := char.valid
  have same : ∀ value, value = char.toNat → Char.ofNat value = char := by
    rintro _ rfl
    exact Char.ofNat_toNat char
  -- The four lengths of an encoding are told apart by the size of the character's number.
  unfold String.utf8EncodeChar
  simp only [Char.toNat] at valid same ⊢
  generalize char.val.toNat = value at valid same
  split
  · have number := toNat_byte value (by omega)
    have single : UInt8.ofNat value < 0x80 := by
      simp only [UInt8.lt_iff_toNat_lt, number, UInt8.toNat_ofNat]
      omega
    simp [Progress.push, Progress.start, lead, single, number, same]
  split
  -- The digits of the number modulo 64 come back from the bytes that they went into.
  · rw [List.foldl_cons, Progress.push, Progress.start, lead_two (by omega) (by omega)]
    rw [List.foldl_cons, push_completes (by simp) (by simp; omega), List.foldl_nil]
    rw [same _ (by omega)]
  split
  · obtain ⟨least, greatest, opened, low, high⟩ :=
      lead_three (value / 4096 % 0x10 + 0xE0) (by omega) (by omega)
    rw [List.foldl_cons, Progress.push, Progress.start, opened]
    -- The second byte is in its range because the number is neither too small nor a surrogate.
    rw [List.foldl_cons, push_extends (by split at low <;> omega) (by split at high <;> omega)
      (by decide)]
    rw [List.foldl_cons, push_completes (by simp) (by simp; omega), List.foldl_nil]
    rw [same _ (by omega)]
  · obtain ⟨least, greatest, opened, low, high⟩ :=
      lead_four (value / 262144 % 0x08 + 0xF0) (by omega) (by omega)
    rw [List.foldl_cons, Progress.push, Progress.start, opened]
    -- The second byte is in its range because the number is neither too small nor too large.
    rw [List.foldl_cons, push_extends (by split at low <;> omega) (by split at high <;> omega)
      (by decide)]
    rw [List.foldl_cons, push_extends (by simp) (by simp; omega) (by decide)]
    rw [List.foldl_cons, push_completes (by simp) (by simp; omega), List.foldl_nil]
    rw [same _ (by omega)]

/-- Decoding gives back the text that was encoded. -/
theorem decode_encode (text : String) : decode (encode text).toArray = text := by
  -- Behind any text read so far, the characters are put back one after the other.
  have general : ∀ (chars : List Char) (before : String),
      (chars.flatMap String.utf8EncodeChar).foldl Progress.push ⟨before, none⟩ =
        ⟨before ++ String.ofList chars, none⟩ := by
    intro chars
    induction chars with
    | nil => intro before; simp
    | cons char chars ih =>
      intro before
      rw [List.flatMap_cons, List.foldl_append, foldl_utf8EncodeChar, ih]
      congr 1
      apply String.toList_inj.mp
      simp
  simp [decode, encode, general, Progress.finish]

/-- A character other than the null character has no zero among its bytes. -/
theorem zero_notMem_utf8EncodeChar {char : Char} (visible : char ≠ '\x00') :
    0 ∉ String.utf8EncodeChar char := by
  have positive : char.val.toNat ≠ 0 := by
    intro zero
    apply visible
    apply Char.ext
    exact UInt32.toNat_inj.mp zero
  -- Bytes of longer encodings have their high bit set.
  unfold String.utf8EncodeChar
  generalize char.val.toNat = value at positive
  dsimp only
  split
  · simp [← UInt8.toNat_inj]; omega
  split
  · simp [← UInt8.toNat_inj]; omega
  split
  · simp [← UInt8.toNat_inj]; omega
  · simp [← UInt8.toNat_inj]; omega

/-- A text without null characters has no zero among its bytes. -/
theorem zero_notMem_encode {text : String} (unbroken : '\x00' ∉ text.toList) :
    0 ∉ encode text := by
  intro zero
  -- A zero would be among the bytes of one of the characters.
  obtain ⟨char, member, found⟩ := List.mem_flatMap.mp zero
  exact zero_notMem_utf8EncodeChar (fun same => unbroken (same ▸ member)) found

/-- Only the empty text has no bytes. -/
theorem encode_ne_nil {text : String} (nonempty : text ≠ "") : encode text ≠ [] := by
  intro none
  apply nonempty
  apply String.toList_inj.mp
  rw [encode, List.flatMap_eq_nil_iff] at none
  -- A first character would have brought its bytes.
  apply List.eq_nil_iff_forall_not_mem.mpr
  intro char member
  exact String.utf8EncodeChar_ne_nil (none char member)

end Footprint.Text.Utf8
