import Footprint.Cursor.Progress

/-! Reads that succeed do not look at the bytes behind what they read: with more bytes at the end,
they yield the same. -/

namespace Footprint

/-- A cursor with more bytes behind all of its own. -/
def Cursor.extend (cursor : Cursor) (tail : Bytes) : Cursor := ⟨cursor.data ++ tail, cursor.position⟩

namespace Cursor

variable {cursor : Cursor} {tail : Bytes}

/-- More bytes at the end take none away. -/
theorem size_extend_le : cursor.data.size ≤ (cursor.extend tail).data.size := by
  simp only [extend, Array.size_append]
  omega

/-- A byte of a cursor's own stays at its place. -/
theorem getElem_extend (inside : cursor.position < cursor.data.size) :
    ∃ within : (cursor.extend tail).position < (cursor.extend tail).data.size,
      (cursor.extend tail).data[(cursor.extend tail).position] = cursor.data[cursor.position] :=
  ⟨Nat.lt_of_lt_of_le inside size_extend_le, Array.getElem_append_left inside⟩

/-- A next byte stays the next one. -/
theorem peek?_extend {byte : UInt8} (ahead : cursor.peek? = some byte) :
    (cursor.extend tail).peek? = some byte := by
  -- The byte is one of the cursor's own, and these come first.
  obtain ⟨inside, here⟩ := Array.getElem?_eq_some_iff.mp ahead
  obtain ⟨within, same⟩ := cursor.getElem_extend inside
  exact Array.getElem?_eq_some_iff.mpr ⟨within, same.trans here⟩

/-- What is not at the end is not at the end with more bytes behind. -/
theorem atEnd_extend (more : cursor.atEnd = false) : (cursor.extend tail).atEnd = false := by
  simp only [atEnd, extend, Array.size_append, decide_eq_false_iff_not] at more ⊢
  omega

end Cursor

namespace Bytes

variable {data tail : Bytes} {start stop : Nat}

/-- A run of bytes inside the bytes does not reach those behind. -/
theorem slice_append_left (inside : stop ≤ data.size) :
    (data ++ tail).slice start stop = data.slice start stop := by
  simp [slice, Array.extract_append, Nat.sub_eq_zero_of_le inside]

/-- A terminator stays the first one. -/
theorem terminator?_append_left (found : data.terminator? start = some stop) :
    (data ++ tail).terminator? start = some stop := by
  -- Both searches look at the same byte in each round, up to the one that ends them.
  fun_induction terminator? data start with
  | case1 start inside zero =>
    have within : start < (data ++ tail).size := by
      rw [Array.size_append]
      omega
    rw [terminator?, dif_pos within, Array.getElem_append_left inside, if_pos zero]
    exact found
  | case2 start inside other ih =>
    have within : start < (data ++ tail).size := by
      rw [Array.size_append]
      omega
    rw [terminator?, dif_pos within, Array.getElem_append_left inside, if_neg other]
    exact ih found
  | case3 => contradiction

end Bytes

namespace Read

variable {α β : Type}

/-- Whether a read that succeeds yields the same with any bytes behind the last one there is. -/
def Persists (read : Read α) : Prop :=
  ∀ before value after, read before = .ok value after →
    -- Where the read fails, more bytes may well let it succeed.
    ∀ tail, read (before.extend tail) = .ok value (after.extend tail)

/-- A value that is already known stays so. -/
theorem persists_pure (value : α) : Persists (pure value : Read α) := by
  intro before result after done tail
  cases done
  rfl

/-- Two reads in a row persist if both do. -/
theorem Persists.bind {read : Read α} {use : α → Read β} (first : Persists read)
    (second : ∀ value, Persists (use value)) : Persists (read >>= use) := by
  intro before result after done tail
  obtain ⟨value, middle, early, late⟩ := bind_eq_ok done
  rw [bind_of_ok (first _ _ _ early tail)]
  exact second _ _ _ _ late tail

/-- Changing the value of a read leaves it persistent. -/
theorem Persists.map {read : Read α} (persists : Persists read) (change : α → β) :
    Persists (read >>= fun value => pure (change value)) :=
  persists.bind fun _ => persists_pure _

/-- A run of bytes that is there stays there. -/
theorem persists_bytes (count : Nat) : Persists (bytes count) := by
  intro before value after done tail
  obtain ⟨inside, rfl, rfl⟩ := bytes_eq_ok done
  have within : before.position + count ≤ (before.data ++ tail).size :=
    Nat.le_trans inside Cursor.size_extend_le
  simp only [bytes, Cursor.extend, if_pos within, Bytes.slice_append_left inside]
  rfl

/-- A byte that is there stays there. -/
theorem persists_byte : Persists byte := by
  intro before value after done tail
  simp only [byte] at done ⊢
  split at done
  · rename_i found ahead
    cases done
    rw [Cursor.peek?_extend ahead]
    rfl
  · contradiction

/-- A place stays the same. -/
theorem persists_position : Persists position := by
  intro before value after done tail
  cases done
  rfl

/-- A text that has ended stays the same. -/
theorem persists_text : Persists text := by
  intro before value after done tail
  simp only [text] at done
  split at done
  · rename_i stop found
    cases done
    -- The text ends inside its own bytes.
    have inside := (Array.getElem?_eq_some_iff.mp (Bytes.terminator?_spec found).2).1
    simp only [text, Cursor.extend, Bytes.terminator?_append_left found]
    rw [Bytes.slice_append_left (Nat.le_of_lt inside)]
  · contradiction

/-- Digits that have ended stay the same. -/
theorem collect_extend {start : Nat} {before after : Cursor} {digits result : Leb128.Digits}
    (done : Leb128.collect start before digits = .ok result after) (tail : Bytes) :
    Leb128.collect start (before.extend tail) digits = .ok result (after.extend tail) := by
  -- Each round looks at the next byte, which is the same with more bytes behind.
  fun_induction Leb128.collect start before digits with
  | case1 before digits inside byte pushed more ih =>
    obtain ⟨within, next⟩ := before.getElem_extend inside
    rw [Leb128.collect, dif_pos within]
    dsimp only
    rw [next, if_pos more]
    exact ih done
  | case2 before digits inside byte pushed last =>
    obtain ⟨within, next⟩ := before.getElem_extend inside
    obtain ⟨rfl, rfl⟩ := EStateM.Result.ok.inj done
    rw [Leb128.collect, dif_pos within]
    dsimp only
    rw [next, if_neg last]
    rfl
  | case3 => contradiction

/-- The digits of a number that has ended stay the same. -/
theorem persists_digits : Persists digits := fun _ _ _ done tail => collect_extend done tail

/-- A number of a given width stays the same. -/
theorem persists_unsigned (width : Nat) : Persists (unsigned width) :=
  (persists_bytes width).map fun bytes => Bytes.littleEndian bytes.toList

/-- Two bytes stay the same. -/
theorem persists_word16 : Persists word16 := (persists_unsigned 2).map UInt16.ofNat

/-- Four bytes stay the same. -/
theorem persists_word32 : Persists word32 := (persists_unsigned 4).map UInt32.ofNat

/-- Eight bytes stay the same. -/
theorem persists_word64 : Persists word64 := (persists_unsigned 8).map UInt64.ofNat

/-- A byte in two's complement stays the same. -/
theorem persists_signedByte : Persists signedByte := persists_byte.map UInt8.toInt8

/-- An address stays the same. -/
theorem persists_address (width : Nat) : Persists (address width) :=
  (persists_bytes width).map fun bytes =>
    UInt64.ofNat (Bytes.littleEndian (bytes.toList.take 8))

/-- An unsigned number of variable length stays the same. -/
theorem persists_unsignedLeb : Persists unsignedLeb := persists_digits.map Leb128.Digits.unsigned

/-- A signed number of variable length stays the same. -/
theorem persists_signedLeb : Persists signedLeb := persists_digits.map Leb128.Digits.signed

/-- Values that are all there stay the same. -/
theorem persists_several {read : Read α} (each : Persists read) (count : Nat)
    (values : Array α) : Persists (several read count values) := by
  induction count generalizing values with
  | zero => exact persists_pure values
  | succ count ih => exact each.bind fun value => ih (values.push value)

end Read

end Footprint
