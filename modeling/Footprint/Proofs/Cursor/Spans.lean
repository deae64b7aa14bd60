import Footprint.Proofs.Cursor.Extension
import Footprint.Proofs.Cursor.Reads
import Footprint.Proofs.Cursor.Translation

/-! Reads over a fixed number of bytes, whose values are told by the bytes at a place of a file. -/

namespace Footprint

namespace Bytes

/-- The number that some bytes of a file spell. -/
def number (data : Bytes) (place width : Nat) : Nat :=
  littleEndian (data.slice place (place + width)).toList

/-- A number is as narrow as the bytes that spell it. -/
theorem number_lt (data : Bytes) (place width : Nat) : data.number place width < 256 ^ width := by
  -- Of the bytes asked for, at most all are there.
  have few : (data.slice place (place + width)).toList.length ≤ width := by
    simp only [slice, Array.length_toList, Array.size_extract]
    omega
  exact Nat.lt_of_lt_of_le (littleEndian_lt _) (Nat.pow_le_pow_right (by decide) few)

/-- A number of one byte is that byte. -/
theorem number_one {data : Bytes} {place : Nat} (inside : place < data.size) :
    data.number place 1 = data[place].toNat := by
  have single : (data.slice place (place + 1)).toList = [data[place]] := by
    have listed : place < data.toList.length := by rwa [Array.length_toList]
    rw [slice, Array.toList_extract, List.extract, Nat.add_sub_cancel_left,
      List.drop_eq_getElem_cons listed, List.take_succ_cons, List.take_zero, Array.getElem_toList]
  rw [number, single, littleEndian, littleEndian, Nat.mul_zero, Nat.add_zero]

/-- A number inside a slice is the one at its place in the file. -/
theorem number_slice {data : Bytes} {start length place width : Nat}
    (inside : place + width ≤ length) :
    (data.slice start (start + length)).number place width =
      data.number (start + place) width := by
  have stop : min (start + (place + width)) (start + length) = start + place + width := by omega
  rw [number, number, slice, slice, slice, Array.extract_extract, stop]

/-- A number behind the front of a file is the one of the rest. -/
theorem number_append_right (front back : Bytes) (place width : Nat) :
    (front ++ back).number (front.size + place) width = back.number place width := by
  rw [number, Nat.add_assoc, slice_append, number]

end Bytes

namespace Read

variable {α β : Type}

/-- A read over a fixed number of bytes: if they are all there, it yields what they tell and passes
them, and if not, it fails. -/
structure Spans (read : Read α) (width : Nat) (value : Bytes → Nat → α) : Prop where
  enough : ∀ data place, place + width ≤ data.size →
    read ⟨data, place⟩ = .ok (value data place) ⟨data, place + width⟩
  short : ∀ data place, place ≤ data.size → data.size < place + width →
    ∃ fault after, read ⟨data, place⟩ = .error fault after

/-- A value that is already known takes no bytes, and is always there. -/
theorem spans_pure (value : α) : (pure value : Read α).Spans 0 fun _ _ => value where
  enough := fun _ _ _ => rfl
  short := fun _ _ inside lacking => absurd inside (Nat.not_le_of_lt lacking)

/-- Two reads in a row take the bytes of both, those of the second behind those of the first. -/
theorem Spans.bind {read : Read α} {use : α → Read β} {first second : Nat}
    {value : Bytes → Nat → α} {result : α → Bytes → Nat → β} (early : read.Spans first value)
    (late : ∀ value, (use value).Spans second (result value)) :
    (read >>= use).Spans (first + second) fun data place =>
      result (value data place) data (place + first) where
  enough := by
    intro data place inside
    have start := early.enough data place (by omega)
    have next := (late (value data place)).enough data (place + first) (by omega)
    rw [bind_of_ok start, next, Nat.add_assoc]
  short := by
    intro data place inside lacking
    -- The bytes run out in the first read, or it passes its own and they do in the second.
    by_cases room : place + first ≤ data.size
    · rw [bind_of_ok (early.enough data place room)]
      exact (late _).short data (place + first) room (by omega)
    · obtain ⟨fault, after, failed⟩ := early.short data place inside (Nat.lt_of_not_le room)
      exact ⟨fault, after, by simp only [Bind.bind, EStateM.bind, failed]⟩

/-- Changing the value of a read leaves its bytes. -/
theorem Spans.map {read : Read α} {width : Nat} {value : Bytes → Nat → α}
    (spans : read.Spans width value) (change : α → β) :
    (read >>= fun value => pure (change value)).Spans width fun data place =>
      change (value data place) :=
  spans.bind fun value => spans_pure (change value)

/-- What a read tells of its bytes may be said in other words. -/
theorem Spans.congr {read : Read α} {width other : Nat} {value result : Bytes → Nat → α}
    (spans : read.Spans width value) (same : width = other)
    (equal : ∀ data place, value data place = result data place) : read.Spans other result := by
  obtain rfl := same
  obtain rfl : value = result := funext fun data => funext fun place => equal data place
  exact spans

/-- A run of bytes is what stands at the place. -/
theorem spans_bytes (count : Nat) :
    (bytes count).Spans count fun data place => data.slice place (place + count) where
  enough := fun data place inside => by simp only [bytes, if_pos inside, Cursor.advance]
  short := fun data place _ lacking =>
    ⟨⟨place⟩, ⟨data, place⟩, by simp only [bytes, if_neg (Nat.not_le_of_lt lacking)]⟩

/-- One byte is the number it spells. -/
theorem spans_byte : byte.Spans 1 fun data place => .ofNat (data.number place 1) where
  enough := by
    intro data place inside
    have here : data[place]? = some data[place] := Array.getElem?_eq_getElem inside
    simp only [byte, Cursor.peek?, here, Cursor.advance, Bytes.number_one inside,
      UInt8.ofNat_toNat]
  short := by
    intro data place inside lacking
    have past : data[place]? = none := Array.getElem?_eq_none (by omega)
    exact ⟨⟨place⟩, ⟨data, place⟩, by simp only [byte, Cursor.peek?, past]⟩

/-- A number of a whole number of bytes is the one they spell. -/
theorem spans_unsigned (width : Nat) :
    (unsigned width).Spans width fun data place => data.number place width :=
  (spans_bytes width).map fun bytes => Bytes.littleEndian bytes.toList

/-- A number of two bytes is the one they spell. -/
theorem spans_word16 : word16.Spans 2 fun data place => .ofNat (data.number place 2) :=
  (spans_unsigned 2).map UInt16.ofNat

/-- A number of four bytes is the one they spell. -/
theorem spans_word32 : word32.Spans 4 fun data place => .ofNat (data.number place 4) :=
  (spans_unsigned 4).map UInt32.ofNat

/-- A number of eight bytes is the one they spell. -/
theorem spans_word64 : word64.Spans 8 fun data place => .ofNat (data.number place 8) :=
  (spans_unsigned 8).map UInt64.ofNat

end Read

end Footprint
