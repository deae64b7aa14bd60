import Footprint.Proofs.Cursor.Reads

/-! Numbers of variable length read back, whatever the length of their encoding. -/

namespace Footprint

namespace Leb128

/-- Only bytes from 128 on are followed by more. -/
theorem continues_eq (byte : UInt8) : continues byte = decide (128 ≤ byte.toNat) := by
  -- There are only 256 bytes to check.
  have each : ∀ number < 256,
      continues (UInt8.ofNat number) = decide (128 ≤ (UInt8.ofNat number).toNat) := by
    decide +kernel
  simpa using each byte.toNat byte.toNat_lt

/-- The sign of a number is the seventh bit of its last byte. -/
theorem negative_eq (byte : UInt8) : negative byte = decide (64 ≤ byte.toNat % 128) := by
  -- Again every byte is checked.
  have each : ∀ number < 256,
      negative (UInt8.ofNat number) = decide (64 ≤ (UInt8.ofNat number).toNat % 128) := by
    decide +kernel
  simpa using each byte.toNat byte.toNat_lt

/-- The payload of a byte is what is left of it without its high bit. -/
theorem payload_eq (byte : UInt8) : payload byte = .ofNat (byte.toNat % 128) := by
  -- A mask of seven ones keeps the remainder modulo 128.
  apply UInt64.toNat_inj.mp
  have low : byte.toNat % 128 < 2 ^ 64 := by omega
  rw [UInt64.toNat_ofNat', Nat.mod_eq_of_lt low]
  simpa [payload] using Nat.and_two_pow_sub_one_eq_mod byte.toNat 7

/-- The number that the payloads of bytes spell, lowest first. -/
def natural : List UInt8 → Nat
  | [] => 0
  -- Each byte brings seven bits.
  | byte :: rest => byte.toNat % 128 + 128 * natural rest

/-- The bytes of one number, of which all but the last continue. -/
def Whole : List UInt8 → Prop
  | [] => False
  | byte :: rest => if continues byte then Whole rest else rest = []

/-- Digits that hold what a word keeps of a number. -/
structure Digits.Holds (digits : Digits) (number : Nat) : Prop where
  value : digits.value = .ofNat number
  below : number < 2 ^ digits.width

/-- Bits past the end of a word are lost. -/
theorem ofNat_add_high {width : Nat} (past : 64 ≤ width) (number count : Nat) :
    UInt64.ofNat (number + 2 ^ width * count) = .ofNat number := by
  -- From the width of the word on, a power of two is a multiple of the word's size.
  have multiple : 2 ^ width = 2 ^ 64 * 2 ^ (width - 64) := by
    rw [← Nat.pow_add, Nat.add_sub_cancel' past]
  rw [← UInt64.ofNat_mod_size, multiple, Nat.mul_assoc, Nat.add_mul_mod_self_left,
    UInt64.ofNat_mod_size]

/-- One more byte puts its payload in front of the bits collected so far. -/
theorem Digits.Holds.push {digits : Digits} {number : Nat} (holds : digits.Holds number)
    (byte : UInt8) :
    (digits.push byte).Holds (number + 2 ^ digits.width * (byte.toNat % 128)) := by
  constructor
  · rw [Digits.push]
    dsimp only
    split
    · rename_i fits
      -- The new bits lie above the old ones, so that joining them adds them.
      have shifted : payload byte <<< digits.width.toUInt64 =
          .ofNat (2 ^ digits.width * (byte.toNat % 128)) := by
        rw [payload_eq, Nat.mul_comm, ← Nat.shiftLeft_eq]
        exact (UInt64.ofNat_shiftLeft _ _ fits).symm
      rw [holds.value, shifted, ← UInt64.ofNat_or, Nat.or_comm,
        ← Nat.two_pow_add_eq_or_of_lt holds.below, Nat.add_comm]
    · rename_i past
      -- The new bits are dropped, and the word would not have kept them.
      rw [holds.value, ofNat_add_high (Nat.le_of_not_lt past)]
  · have below := holds.below
    -- A payload is at most 127, so that the sum stays within seven more bits.
    have most : 2 ^ digits.width * (byte.toNat % 128) ≤ 2 ^ digits.width * 127 :=
      Nat.mul_le_mul_left _ (by omega)
    simp only [Digits.push, Nat.pow_add]
    omega

/-- Bytes pushed one after the other hold the number that their payloads spell. -/
theorem Digits.Holds.foldl {digits : Digits} {number : Nat} (holds : digits.Holds number)
    (bytes : List UInt8) :
    (bytes.foldl Digits.push digits).Holds (number + 2 ^ digits.width * natural bytes) := by
  -- Each byte pushed moves from the bytes ahead into the number held.
  induction bytes generalizing digits number with
  | nil => simpa [natural] using holds
  | cons byte bytes ih =>
    have next := ih (holds.push byte)
    have regroup : number + 2 ^ digits.width * (byte.toNat % 128) +
          2 ^ (digits.push byte).width * natural bytes =
        number + 2 ^ digits.width * natural (byte :: bytes) := by
      simp only [Digits.push, natural, Nat.pow_add]
      ring
    rwa [regroup] at next

/-- Seven bits are collected from each byte. -/
theorem width_foldl (bytes : List UInt8) (digits : Digits) :
    (bytes.foldl Digits.push digits).width = digits.width + 7 * bytes.length := by
  -- The width grows past that of the word too, which tells how many bytes there were.
  induction bytes generalizing digits with
  | nil => rfl
  | cons byte bytes ih =>
    have pushed : (digits.push byte).width = digits.width + 7 := rfl
    rw [List.foldl_cons, ih, pushed, List.length_cons]
    omega

/-- The last byte pushed is remembered. -/
theorem last_foldl (bytes : List UInt8) (digits : Digits) :
    (bytes.foldl Digits.push digits).last = bytes.getLast?.getD digits.last := by
  induction bytes generalizing digits with
  | nil => rfl
  | cons byte bytes ih =>
    rw [List.foldl_cons, ih, List.getLast?_cons]
    rfl

/-- Collecting takes the next byte, and goes on only if that one continues. -/
theorem collect_cons (start : Nat) (behind : List UInt8) (byte : UInt8) (ahead : List UInt8)
    (digits : Digits) :
    collect start (.between behind (byte :: ahead)) digits =
      if continues byte then
        collect start (.between (behind ++ [byte]) ahead) (digits.push byte)
      else .ok (digits.push byte) (.between (behind ++ [byte]) ahead) := by
  -- There is a next byte, and moving over it puts it behind.
  have inside : (Cursor.between behind (byte :: ahead)).position <
      (Cursor.between behind (byte :: ahead)).data.size := by
    simp
  have next : (Cursor.between behind (byte :: ahead)).data[
      (Cursor.between behind (byte :: ahead)).position] = byte := by
    simp
  have moved : (Cursor.between behind (byte :: ahead)).advance 1 =
      .between (behind ++ [byte]) ahead :=
    Cursor.between_advance behind [byte] ahead
  rw [collect, dif_pos inside]
  dsimp only
  rw [next, moved]

/-- The bytes of one number are collected, and none after them. -/
theorem collect_between {bytes : List UInt8} (whole : Whole bytes) (start : Nat)
    (behind ahead : List UInt8) (digits : Digits) :
    collect start (.between behind (bytes ++ ahead)) digits =
      .ok (bytes.foldl Digits.push digits) (.between (behind ++ bytes) ahead) := by
  -- A byte that continues is put behind the cursor, and the one that does not ends the number.
  induction bytes generalizing behind digits with
  | nil => exact whole.elim
  | cons byte bytes ih =>
    rw [List.cons_append, collect_cons]
    simp only [Whole] at whole
    split at whole
    · rename_i more
      rw [if_pos more, ih whole]
      simp
    · rename_i last
      subst whole
      rw [if_neg last]
      simp

/-- The digits that the bytes of a number collect. -/
def digitsOf (bytes : List UInt8) : Digits := bytes.foldl Digits.push ⟨0, 0, 0⟩

/-- The digits of a number read back from its bytes. -/
theorem reads_digitsOf {bytes : List UInt8} (whole : Whole bytes) :
    Reads Read.digits bytes (digitsOf bytes) := by
  intro behind ahead
  exact collect_between whole behind.length behind ahead ⟨0, 0, 0⟩

/-- The digits that bytes collect hold the number that they spell. -/
theorem holds_digitsOf (bytes : List UInt8) : (digitsOf bytes).Holds (natural bytes) := by
  -- No digits hold zero, to which the number of the bytes is added.
  have held : (digitsOf bytes).Holds (0 + 2 ^ 0 * natural bytes) :=
    Digits.Holds.foldl ⟨rfl, by decide⟩ bytes
  rwa [Nat.pow_zero, Nat.one_mul, Nat.zero_add] at held

/-- The unsigned number that bytes spell, as far as a word keeps it. -/
theorem reads_natural {bytes : List UInt8} (whole : Whole bytes) :
    Reads Read.unsignedLeb bytes (.ofNat (natural bytes)) := by
  have reads := (reads_digitsOf whole).map Digits.unsigned
  rwa [Digits.unsigned, (holds_digitsOf bytes).value] at reads

/-- The signed number that bytes spell. -/
def integer (bytes : List UInt8) : Int :=
  if negative (bytes.getLast?.getD 0) then natural bytes - 2 ^ (7 * bytes.length)
  else natural bytes

/-- Two numbers that differ by a multiple of the word are one signed word. -/
theorem ofInt_sub_multiple (number : Int) (count : Nat) :
    Int64.ofInt (number - 2 ^ 64 * count) = .ofInt number := by
  apply Int64.toInt_inj.mp
  rw [Int64.toInt_ofInt, Int64.toInt_ofInt]
  exact Int.sub_mul_bmod_self_left number (2 ^ 64) count

/-- The sign bit of the last byte is repeated in all bits above it. -/
theorem Digits.Holds.signed {digits : Digits} {number : Nat} (holds : digits.Holds number) :
    digits.signed =
      .ofInt (if negative digits.last then number - 2 ^ digits.width else number) := by
  rw [Digits.signed, holds.value]
  split
  · rename_i both
    obtain ⟨fits, sign⟩ := both
    have ones : (-1 : UInt64) <<< digits.width.toUInt64 =
        .ofNat (2 ^ digits.width * (2 ^ 64 - 1)) := by
      rw [Nat.mul_comm, ← Nat.shiftLeft_eq]
      exact (UInt64.ofNat_shiftLeft _ _ fits).symm
    -- The repeated ones stand for the power of two that is taken away, up to whole words.
    have wraps : (number - 2 ^ digits.width : Int) =
        (2 ^ digits.width * (2 ^ 64 - 1) + number : Nat) - 2 ^ 64 * (2 ^ digits.width : Nat) := by
      push_cast
      ring
    rw [if_pos sign, ones, ← UInt64.ofNat_or, Nat.or_comm,
      ← Nat.two_pow_add_eq_or_of_lt holds.below, UInt64.toInt64_ofNat', wraps, ofInt_sub_multiple,
      Int64.ofInt_eq_ofNat]
  · rename_i neither
    by_cases sign : negative digits.last
    · -- The bits above the last one lie past the end of the word.
      have past : 64 ≤ digits.width := by
        by_contra short
        exact neither ⟨Nat.lt_of_not_le short, sign⟩
      have multiple : (2 ^ digits.width : Int) = 2 ^ 64 * (2 ^ (digits.width - 64) : Nat) := by
        rw [Nat.cast_pow, Nat.cast_ofNat, ← pow_add, Nat.add_sub_cancel' past]
      rw [if_pos sign, multiple, ofInt_sub_multiple, UInt64.toInt64_ofNat', Int64.ofInt_eq_ofNat]
    · rw [if_neg sign, UInt64.toInt64_ofNat', Int64.ofInt_eq_ofNat]

/-- The signed number that bytes spell, as far as a word keeps it. -/
theorem reads_integer {bytes : List UInt8} (whole : Whole bytes) :
    Reads Read.signedLeb bytes (.ofInt (integer bytes)) := by
  have reads := (reads_digitsOf whole).map Digits.signed
  have width : (digitsOf bytes).width = 7 * bytes.length := by
    rw [digitsOf, width_foldl, Nat.zero_add]
  have last : (digitsOf bytes).last = bytes.getLast?.getD 0 := last_foldl bytes ⟨0, 0, 0⟩
  rwa [(holds_digitsOf bytes).signed, width, last] at reads

/-- A natural number in as few bytes as it needs. -/
def unsignedBytes (number : Nat) : List UInt8 :=
  if number < 128 then [UInt8.ofNat number]
  else UInt8.ofNat (number % 128 + 128) :: unsignedBytes (number / 128)

/-- An integer in as few bytes as it needs. -/
def signedBytes (number : Int) : List UInt8 :=
  if -64 ≤ number ∧ number < 64 then [UInt8.ofNat (number % 128).toNat]
  else UInt8.ofNat ((number % 128).toNat + 128) :: signedBytes (number / 128)
termination_by number.natAbs
decreasing_by omega

/-- A byte below 128 is the last of its number. -/
theorem whole_last {digit : Nat} (small : digit < 128) : Whole [UInt8.ofNat digit] := by
  have last : continues (UInt8.ofNat digit) = false := by
    rw [continues_eq, UInt8.toNat_ofNat']
    simp
    omega
  simp [Whole, last]

/-- A byte from 128 on goes in front of the bytes of a number. -/
theorem whole_more {digit : Nat} (small : digit < 128) {bytes : List UInt8} (whole : Whole bytes) :
    Whole (UInt8.ofNat (digit + 128) :: bytes) := by
  have more : continues (UInt8.ofNat (digit + 128)) = true := by
    rw [continues_eq, UInt8.toNat_ofNat']
    simp
    omega
  rwa [Whole, if_pos more]

/-- The bytes of a natural number are whole. -/
theorem whole_unsignedBytes (number : Nat) : Whole (unsignedBytes number) := by
  fun_induction unsignedBytes number with
  | case1 number small => exact whole_last small
  | case2 number large ih => exact whole_more (Nat.mod_lt _ (by decide)) ih

/-- The bytes of a natural number spell it. -/
theorem natural_unsignedBytes (number : Nat) : natural (unsignedBytes number) = number := by
  -- The first byte spells the remainder, and the others the quotient.
  fun_induction unsignedBytes number with
  | case1 number small =>
    simp only [natural, UInt8.toNat_ofNat']
    omega
  | case2 number large ih =>
    simp only [natural, UInt8.toNat_ofNat', ih]
    omega

/-- The bytes of an integer are whole. -/
theorem whole_signedBytes (number : Int) : Whole (signedBytes number) := by
  fun_induction signedBytes number with
  | case1 number small =>
    apply whole_last
    omega
  | case2 number large ih =>
    refine whole_more ?_ ih
    omega

/-- The sign of a number is that of what follows its first byte. -/
theorem integer_cons {rest : List UInt8} (more : rest ≠ []) (byte : UInt8) :
    integer (byte :: rest) = (byte.toNat % 128 : Nat) + 128 * integer rest := by
  -- The last byte stays the last one, and stands seven bits higher.
  have same : (byte :: rest).getLast?.getD 0 = rest.getLast?.getD 0 := by
    rw [List.getLast?_cons, List.getLast?_eq_some_getLast more]
    rfl
  rw [integer, integer, same, natural, List.length_cons]
  split
  · push_cast
    ring
  · push_cast
    ring

/-- The bytes of an integer spell it. -/
theorem integer_signedBytes (number : Int) : integer (signedBytes number) = number := by
  -- The remainder is that of a division that rounds down, and so is the quotient.
  fun_induction signedBytes number with
  | case1 number small =>
    have digit : (UInt8.ofNat (number % 128).toNat).toNat = (number % 128).toNat := by
      rw [UInt8.toNat_ofNat']
      omega
    simp only [integer, natural, List.getLast?_singleton, Option.getD_some, List.length_singleton,
      negative_eq, digit, decide_eq_true_eq]
    -- One byte is enough for a number whose sign its seventh bit shows.
    split
    · omega
    · omega
  | case2 number large ih =>
    have more : signedBytes (number / 128) ≠ [] := by
      intro none
      have whole := whole_signedBytes (number / 128)
      rw [none] at whole
      exact whole
    have digit : (UInt8.ofNat ((number % 128).toNat + 128)).toNat = (number % 128).toNat + 128 := by
      rw [UInt8.toNat_ofNat']
      omega
    rw [integer_cons more, ih, digit]
    omega

end Leb128

/-- A word reads back from its bytes. -/
theorem reads_unsignedLeb (value : UInt64) :
    Reads Read.unsignedLeb (Leb128.unsignedBytes value.toNat) value := by
  have reads := Leb128.reads_natural (Leb128.whole_unsignedBytes value.toNat)
  rwa [Leb128.natural_unsignedBytes, UInt64.ofNat_toNat] at reads

/-- A signed word reads back from its bytes. -/
theorem reads_signedLeb (value : Int64) :
    Reads Read.signedLeb (Leb128.signedBytes value.toInt) value := by
  have reads := Leb128.reads_integer (Leb128.whole_signedBytes value.toInt)
  rwa [Leb128.integer_signedBytes, Int64.ofInt_toInt] at reads

end Footprint
