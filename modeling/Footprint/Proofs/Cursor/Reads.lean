import Footprint.Cursor.Progress
import Footprint.Proofs.Text.Utf8
import Mathlib.Tactic.Ring

/-! Values read back from the bytes they were written as, wherever those bytes stand. -/

namespace Footprint

/-- The cursor behind some bytes and before others. -/
def Cursor.between (behind ahead : List UInt8) : Cursor :=
  ⟨(behind ++ ahead).toArray, behind.length⟩

/-- A read that yields a value over these bytes, whatever stands before and after them. -/
def Reads {α : Type} (read : Read α) (bytes : List UInt8) (value : α) : Prop :=
  ∀ behind ahead, read (.between behind (bytes ++ ahead)) =
    .ok value (.between (behind ++ bytes) ahead)

namespace Bytes

/-- A number written in a width, with its lowest digit first. -/
def digits : Nat → Nat → List UInt8
  | 0, _ => []
  -- A byte keeps the remainder modulo 256.
  | width + 1, number => UInt8.ofNat number :: digits width (number / 256)

/-- A number is written in as many bytes as its width says. -/
@[simp] theorem length_digits (width number : Nat) : (digits width number).length = width := by
  induction width generalizing number with
  | zero => rfl
  | succ width ih => simp [digits, ih]

/-- A run of fewer than `n` bytes spells a number below `256 ^ n`. -/
theorem littleEndian_lt (bytes : List UInt8) : littleEndian bytes < 256 ^ bytes.length := by
  -- Each byte put in front scales the rest by one digit and adds less than one digit.
  induction bytes with
  | nil => simp [littleEndian]
  | cons byte rest ih =>
    have digit : byte.toNat < 256 := byte.toNat_lt
    simp only [littleEndian, List.length_cons, Nat.pow_succ]
    omega

/-- The digits of a number spell what of it fits their width. -/
theorem littleEndian_digits (width number : Nat) :
    littleEndian (digits width number) = number % 256 ^ width := by
  -- The first byte is the remainder, and the others spell the quotient.
  induction width generalizing number with
  | zero => simp [digits, littleEndian, Nat.mod_one]
  | succ width ih =>
    have split : number % 256 ^ (width + 1) =
        number % 256 + 256 * (number / 256 % 256 ^ width) := by
      rw [Nat.pow_succ', Nat.mod_mul]
    rw [digits, littleEndian, ih, UInt8.toNat_ofNat', split]

end Bytes

variable {α β : Type}

namespace Cursor

/-- The bytes of a cursor are those behind it and those ahead. -/
@[simp] theorem between_data (behind ahead : List UInt8) :
    (between behind ahead).data = (behind ++ ahead).toArray := rfl

/-- A cursor stands behind the bytes behind it. -/
@[simp] theorem between_position (behind ahead : List UInt8) :
    (between behind ahead).position = behind.length := rfl

/-- A cursor is at the end if nothing lies ahead. -/
@[simp] theorem between_atEnd (behind ahead : List UInt8) :
    (between behind ahead).atEnd = ahead.isEmpty := by
  cases ahead <;> simp [atEnd]

/-- The next byte is the first one ahead. -/
theorem between_peek? (behind : List UInt8) (byte : UInt8) (ahead : List UInt8) :
    (between behind (byte :: ahead)).peek? = some byte := by
  simp [peek?]

/-- Moving over the first bytes ahead puts them behind. -/
theorem between_advance (behind bytes ahead : List UInt8) :
    (between behind (bytes ++ ahead)).advance bytes.length = between (behind ++ bytes) ahead := by
  simp [between, advance]

/-- The first bytes ahead, taken out. -/
theorem between_slice (behind bytes ahead : List UInt8) :
    (behind ++ (bytes ++ ahead)).toArray.extract behind.length (behind.length + bytes.length) =
      bytes.toArray := by
  apply Array.toList_inj.mp
  simp

end Cursor

/-- A value that is already known takes no bytes. -/
theorem reads_pure (value : α) : Reads (pure value) [] value := by
  -- The cursor does not move.
  intro behind ahead
  simp [pure, EStateM.pure]

/-- Two reads in a row take the bytes of both. -/
theorem Reads.bind {read : Read α} {use : α → Read β} {first second : List UInt8} {value : α}
    {result : β} (early : Reads read first value) (late : Reads (use value) second result) :
    Reads (read >>= use) (first ++ second) result := by
  intro behind ahead
  -- The bytes of the second read lie ahead of the first, and those of the first behind the second.
  have start := early behind (second ++ ahead)
  have next := late (behind ++ first) ahead
  rw [List.append_assoc] at next
  rw [List.append_assoc, Read.bind_of_ok start, next]

/-- Changing the value of a read leaves its bytes. -/
theorem Reads.map {read : Read α} {bytes : List UInt8} {value : α} (reads : Reads read bytes value)
    (change : α → β) : Reads (read >>= fun value => pure (change value)) bytes (change value) := by
  -- The second read of the two takes no bytes.
  have joined : Reads (read >>= fun value => pure (change value)) (bytes ++ []) (change value) :=
    reads.bind (reads_pure (change value))
  rwa [List.append_nil] at joined

/-- A run of bytes reads back. -/
theorem reads_bytes (bytes : List UInt8) : Reads (Read.bytes bytes.length) bytes bytes.toArray := by
  intro behind ahead
  -- The bytes end where the others ahead start, so that there are enough of them.
  have inside : behind.length + bytes.length ≤ (behind ++ (bytes ++ ahead)).length := by
    simp
  simp only [Read.bytes, Cursor.between_position, Cursor.between_data, List.size_toArray,
    if_pos inside, Bytes.slice, Cursor.between_slice, Cursor.between_advance]

/-- One byte reads back. -/
theorem reads_byte (byte : UInt8) : Reads Read.byte [byte] byte := by
  intro behind ahead
  have moved := Cursor.between_advance behind [byte] ahead
  simp only [List.singleton_append, List.length_singleton] at moved
  simp only [Read.byte, List.singleton_append, Cursor.between_peek?, moved]

/-- A byte in two's complement reads back. -/
theorem reads_signedByte (value : Int8) : Reads Read.signedByte [value.toUInt8] value :=
  (reads_byte value.toUInt8).map UInt8.toInt8

/-- The number that a run of bytes spells. -/
theorem reads_unsigned (bytes : List UInt8) :
    Reads (Read.unsigned bytes.length) bytes (Bytes.littleEndian bytes) :=
  (reads_bytes bytes).map fun bytes => Bytes.littleEndian bytes.toList

/-- A number reads back from its digits if it fits their width. -/
theorem reads_digits (width : Nat) {number : Nat} (fits : number < 256 ^ width) :
    Reads (Read.unsigned width) (Bytes.digits width number) number := by
  -- A number that fits is its own remainder.
  have reads := reads_unsigned (Bytes.digits width number)
  rwa [Bytes.length_digits, Bytes.littleEndian_digits, Nat.mod_eq_of_lt fits] at reads

/-- A number of two bytes reads back. -/
theorem reads_word16 (value : UInt16) : Reads Read.word16 (Bytes.digits 2 value.toNat) value := by
  have reads := (reads_digits 2 value.toNat_lt).map UInt16.ofNat
  rwa [UInt16.ofNat_toNat] at reads

/-- A number of four bytes reads back. -/
theorem reads_word32 (value : UInt32) : Reads Read.word32 (Bytes.digits 4 value.toNat) value := by
  have reads := (reads_digits 4 value.toNat_lt).map UInt32.ofNat
  rwa [UInt32.ofNat_toNat] at reads

/-- A number of eight bytes reads back. -/
theorem reads_word64 (value : UInt64) : Reads Read.word64 (Bytes.digits 8 value.toNat) value := by
  have reads := (reads_digits 8 value.toNat_lt).map UInt64.ofNat
  rwa [UInt64.ofNat_toNat] at reads

/-- The first eight bytes of an operand spell an address. -/
theorem reads_address (operand : List UInt8) :
    Reads (Read.address operand.length) operand
      (.ofNat (Bytes.littleEndian (operand.take 8))) :=
  (reads_bytes operand).map fun bytes => UInt64.ofNat (Bytes.littleEndian (bytes.toList.take 8))

/-- The first zero ahead ends the bytes before it. -/
theorem terminator?_between {bytes : List UInt8} (unbroken : 0 ∉ bytes)
    (behind ahead : List UInt8) :
    Bytes.terminator? (behind ++ (bytes ++ 0 :: ahead)).toArray behind.length =
      some (behind.length + bytes.length) := by
  -- The search passes the bytes one by one, and each one passed counts as behind.
  induction bytes generalizing behind with
  | nil =>
    rw [Bytes.terminator?, dif_pos (by simp)]
    simp
  | cons byte bytes ih =>
    obtain ⟨nonzero, rest⟩ := not_or.mp (mt List.mem_cons.mpr unbroken)
    have passed := ih rest (behind ++ [byte])
    simp only [List.append_assoc, List.singleton_append, List.length_append,
      List.length_singleton] at passed
    -- The byte is there and is not the zero that is sought.
    rw [Bytes.terminator?, dif_pos (by simp), if_neg (by simpa using Ne.symm nonzero)]
    rw [List.cons_append, passed, List.length_cons, Nat.add_assoc, Nat.add_comm 1]

/-- The text that bytes without a zero spell, which the zero behind them ends. -/
theorem reads_terminated {bytes : List UInt8} (unbroken : 0 ∉ bytes) :
    Reads Read.text (bytes ++ [0]) (Text.Utf8.decode bytes.toArray) := by
  intro behind ahead
  -- No byte before the last one is zero, so that the terminator is the last one.
  have ends := terminator?_between unbroken behind ahead
  simp only [Read.text, Cursor.between_data, Cursor.between_position, List.append_assoc,
    List.singleton_append, ends, Bytes.slice, Cursor.between_slice]
  simp [Cursor.between, Nat.add_assoc]

/-- A text without null characters reads back from its bytes and the zero behind them. -/
theorem reads_text {text : String} (unbroken : '\x00' ∉ text.toList) :
    Reads Read.text (Text.Utf8.encode text ++ [0]) text := by
  have reads := reads_terminated (Text.Utf8.zero_notMem_encode unbroken)
  rwa [Text.Utf8.decode_encode] at reads

/-- Values read one after the other take the bytes of all. -/
theorem reads_several {read : Read α} {write : α → List UInt8} (values : List α)
    (each : ∀ value ∈ values, Reads read (write value) value) (before : Array α) :
    Reads (Read.several read values.length before) (values.flatMap write)
      (before ++ values.toArray) := by
  -- Each value read joins those already read, and the rest follow.
  induction values generalizing before with
  | nil => simpa [Read.several] using reads_pure before
  | cons value values ih =>
    have rest := ih (fun other member => each other (List.mem_cons_of_mem _ member))
      (before.push value)
    have joined : Reads (Read.several read (values.length + 1) before)
        (write value ++ values.flatMap write) (before.push value ++ values.toArray) :=
      (each value List.mem_cons_self).bind rest
    simpa using joined

end Footprint
