import Footprint.Cursor.Progress

/-! Reads do not depend on where their bytes stand: with more bytes in front, they read the same
further on. -/

namespace Footprint

/-- A cursor with more bytes in front of all of its own. -/
def Cursor.shift (front : Bytes) (cursor : Cursor) : Cursor :=
  ⟨front ++ cursor.data, front.size + cursor.position⟩

variable {α β : Type} {front : Bytes}

/-- The result of a read with more bytes in front: places move along, and the value changes as
said. -/
def shifted (front : Bytes) (move : α → α) :
    EStateM.Result Truncated Cursor α → EStateM.Result Truncated Cursor α
  | .ok value after => .ok (move value) (after.shift front)
  -- A fault tells the place where the bytes ran out, which moves along.
  | .error fault after => .error ⟨front.size + fault.offset⟩ (after.shift front)

/-- A read and what it becomes with more bytes in front. -/
def Translates (front : Bytes) (move : α → α) (read moved : Read α) : Prop :=
  ∀ cursor : Cursor, moved (cursor.shift front) = shifted front move (read cursor)

/-- A value that is already known changes as said. -/
theorem translates_pure (move : α → α) (value : α) :
    Translates front move (pure value) (pure (move value)) := fun _ => rfl

/-- Two reads in a row translate if both do. -/
theorem Translates.bind {move : α → α} {change : β → β} {read moved : Read α}
    {use used : α → Read β} (first : Translates front move read moved)
    (second : ∀ value, Translates front change (use value) (used (move value))) :
    Translates front change (read >>= use) (moved >>= used) := by
  intro cursor
  have early := first cursor
  simp only [Bind.bind, EStateM.bind]
  -- A fault of the first read is final, and a value is handed on.
  cases done : read cursor with
  | ok value middle =>
    rw [done] at early
    rw [early]
    exact second value middle
  | error fault middle =>
    rw [done] at early
    rw [early]
    rfl

/-- Changing the value of a read that keeps it leaves the translation. -/
theorem Translates.map {read : Read α} (keeps : Translates front id read read) (change : α → β) :
    Translates front id (read >>= fun value => pure (change value))
      (read >>= fun value => pure (change value)) :=
  keeps.bind fun value => translates_pure id (change value)

/-- The next byte stays the next one. -/
theorem Cursor.peek?_shift (cursor : Cursor) : (cursor.shift front).peek? = cursor.peek? := by
  simp [peek?, shift, Array.getElem?_append_right]

/-- Moving on and putting bytes in front can change places. -/
theorem Cursor.advance_shift (cursor : Cursor) (count : Nat) :
    (cursor.shift front).advance count = (cursor.advance count).shift front := by
  simp [advance, shift, Nat.add_assoc]

/-- The end stays the end. -/
theorem Cursor.atEnd_shift (cursor : Cursor) : (cursor.shift front).atEnd = cursor.atEnd := by
  simp [atEnd, shift]

/-- A run of bytes behind those in front is one of the bytes themselves. -/
theorem Bytes.slice_append (data : Bytes) (start stop : Nat) :
    (front ++ data).slice (front.size + start) (front.size + stop) = data.slice start stop := by
  simp [slice, Array.extract_append]

/-- A terminator moves along. -/
theorem Bytes.terminator?_append (data : Bytes) (start : Nat) :
    (front ++ data).terminator? (front.size + start) =
      (data.terminator? start).map (front.size + ·) := by
  -- Both searches look at the same byte in each round.
  fun_induction terminator? data start with
  | case1 start inside zero =>
    rw [terminator?, dif_pos (by simpa using inside), if_pos]
    · rfl
    · rw [Array.getElem_append_right (by omega)]
      simpa using zero
  | case2 start inside other ih =>
    rw [terminator?, dif_pos (by simpa using inside), if_neg]
    · exact ih
    · rw [Array.getElem_append_right (by omega)]
      simpa using other
  | case3 start outside =>
    rw [terminator?, dif_neg (by simpa using outside)]
    rfl

namespace Read

/-- A run of bytes reads the same further on. -/
theorem translates_bytes (count : Nat) : Translates front id (bytes count) (bytes count) := by
  intro cursor
  -- There are enough bytes in both runs or in neither.
  have bound : front.size + cursor.position + count ≤ (front ++ cursor.data).size ↔
      cursor.position + count ≤ cursor.data.size := by
    rw [Array.size_append]
    omega
  simp only [bytes, Cursor.shift, bound]
  split
  · rw [Nat.add_assoc, Bytes.slice_append]
    simp [shifted, Cursor.advance, Cursor.shift, Nat.add_assoc]
  · rfl

/-- One byte reads the same further on. -/
theorem translates_byte : Translates front id byte byte := by
  intro cursor
  simp only [byte, Cursor.peek?_shift]
  -- Either there is a next byte to move over, or both reads fault.
  split
  · rw [Cursor.advance_shift]
    rfl
  · rfl

/-- A place moves along. -/
theorem translates_position : Translates front (front.size + ·) position position := fun _ => rfl

/-- A text reads the same further on. -/
theorem translates_text : Translates front id text text := by
  intro cursor
  simp only [text, Cursor.shift, Bytes.terminator?_append]
  -- The terminator is found in both runs of bytes or in neither.
  cases cursor.data.terminator? cursor.position with
  | none => rfl
  | some stop =>
    simp only [Option.map_some, Bytes.slice_append]
    rfl

/-- Digits are collected in the same way further on. -/
theorem collect_shift (start : Nat) (cursor : Cursor) (digits : Leb128.Digits) :
    Leb128.collect (front.size + start) (cursor.shift front) digits =
      shifted front id (Leb128.collect start cursor digits) := by
  -- Each round looks at the next byte, which is the same in both runs of bytes.
  fun_induction Leb128.collect start cursor digits with
  | case1 cursor digits inside byte pushed more ih =>
    have within : (cursor.shift front).position < (cursor.shift front).data.size := by
      simpa [Cursor.shift] using inside
    have next : (cursor.shift front).data[(cursor.shift front).position] = byte := by
      simp [Cursor.shift, byte, Array.getElem_append_right]
    rw [Leb128.collect, dif_pos within]
    dsimp only
    rw [next, if_pos more, Cursor.advance_shift]
    exact ih
  | case2 cursor digits inside byte pushed last =>
    have within : (cursor.shift front).position < (cursor.shift front).data.size := by
      simpa [Cursor.shift] using inside
    have next : (cursor.shift front).data[(cursor.shift front).position] = byte := by
      simp [Cursor.shift, byte, Array.getElem_append_right]
    rw [Leb128.collect, dif_pos within]
    dsimp only
    rw [next, if_neg last, Cursor.advance_shift]
    rfl
  | case3 cursor digits outside =>
    have beyond : ¬ (cursor.shift front).position < (cursor.shift front).data.size := by
      simpa [Cursor.shift] using outside
    rw [Leb128.collect, dif_neg beyond]
    rfl

/-- The digits of a number read the same further on. -/
theorem translates_digits : Translates front id digits digits := fun cursor =>
  collect_shift cursor.position cursor ⟨0, 0, 0⟩

/-- A number of a given width reads the same further on. -/
theorem translates_unsigned (width : Nat) :
    Translates front id (unsigned width) (unsigned width) :=
  (translates_bytes width).map fun bytes => Bytes.littleEndian bytes.toList

/-- Two bytes read the same further on. -/
theorem translates_word16 : Translates front id word16 word16 :=
  (translates_unsigned 2).map UInt16.ofNat

/-- Four bytes read the same further on. -/
theorem translates_word32 : Translates front id word32 word32 :=
  (translates_unsigned 4).map UInt32.ofNat

/-- Eight bytes read the same further on. -/
theorem translates_word64 : Translates front id word64 word64 :=
  (translates_unsigned 8).map UInt64.ofNat

/-- A byte in two's complement reads the same further on. -/
theorem translates_signedByte : Translates front id signedByte signedByte :=
  translates_byte.map UInt8.toInt8

/-- An address reads the same further on. -/
theorem translates_address (width : Nat) : Translates front id (address width) (address width) :=
  (translates_bytes width).map fun bytes =>
    UInt64.ofNat (Bytes.littleEndian (bytes.toList.take 8))

/-- An unsigned number of variable length reads the same further on. -/
theorem translates_unsignedLeb : Translates front id unsignedLeb unsignedLeb :=
  translates_digits.map Leb128.Digits.unsigned

/-- A signed number of variable length reads the same further on. -/
theorem translates_signedLeb : Translates front id signedLeb signedLeb :=
  translates_digits.map Leb128.Digits.signed

/-- Values read one after the other are the same further on. -/
theorem translates_several {read : Read α} (each : Translates front id read read) (count : Nat)
    (values : Array α) :
    Translates front id (several read count values) (several read count values) := by
  -- The values read so far are the same in both.
  induction count generalizing values with
  | zero => exact translates_pure id values
  | succ count ih => exact each.bind fun value => ih (values.push value)

end Read

end Footprint
