import Footprint.Proofs.Cursor.VariableLength

/-! How far reads reach into the bytes ahead: each one either finds too few of them, or takes the
ones that its value is told from and no others. -/

namespace Footprint

/-- What a read needs of the bytes ahead. -/
inductive Reach where
  /-- A number of bytes. -/
  | width (count : Nat)
  /-- The bytes up to a zero. -/
  | terminated
  /-- The bytes up to one that asks for no other. -/
  | continued
deriving DecidableEq, Repr

/-- Whether the bytes ahead end too early. -/
def Reach.Lacks : Reach → List UInt8 → Prop
  | width count, ahead => ahead.length < count
  | terminated, ahead => 0 ∉ ahead
  | continued, ahead => ∀ byte ∈ ahead, Leb128.continues byte

namespace Cursor

/-- The cursor behind the last byte. -/
def toEnd (cursor : Cursor) : Cursor := { cursor with position := cursor.data.size }

/-- The bytes between the places of two cursors. -/
def passed (before after : Cursor) : List UInt8 :=
  (before.data.slice before.position after.position).toList

/-- Where bytes that end too early leave a cursor. -/
def stranded (cursor : Cursor) : Reach → Cursor
  -- Only a number of variable length is read byte by byte.
  | .continued => cursor.toEnd
  | _ => cursor

/-- A stranded cursor is over the same bytes. -/
theorem stranded_data (cursor : Cursor) (reach : Reach) :
    (cursor.stranded reach).data = cursor.data := by
  cases reach <;> rfl

/-- A stranded cursor is inside its bytes. -/
theorem Sound.stranded {cursor : Cursor} (sound : cursor.Sound) (reach : Reach) :
    (cursor.stranded reach).Sound := by
  cases reach with
  | continued => exact ⟨Nat.le_refl _, sound.bounded⟩
  | width count => exact sound
  | terminated => exact sound

/-- The bytes ahead of a cursor are those that were put there. -/
@[simp] theorem between_rest (behind ahead : List UInt8) : (between behind ahead).rest = ahead := by
  simp [between, rest]

/-- As many bytes lie ahead as remain. -/
theorem length_rest (cursor : Cursor) : cursor.rest.length = cursor.remaining := by
  simp [rest, remaining]

/-- The bytes that a cursor passes are those it moves over. -/
theorem passed_advance {cursor : Cursor} {taken : List UInt8} (next : taken <+: cursor.rest) :
    cursor.passed (cursor.advance taken.length) = taken := by
  have first : taken = cursor.rest.take taken.length := List.prefix_iff_eq_take.mp next
  rw [passed, Bytes.slice, advance, Array.toList_extract, List.extract_eq_take_drop,
    Nat.add_sub_cancel_left]
  exact first.symm

/-- The bytes that a cursor passes on its way to the end are those ahead. -/
theorem passed_toEnd (cursor : Cursor) : cursor.passed cursor.toEnd = cursor.rest := by
  rw [passed, Bytes.slice, toEnd, Array.toList_extract, List.extract_eq_take_drop, rest]
  exact List.take_of_length_le (by simp)

end Cursor

namespace Read

variable {α β : Type}

/-- A read that reaches so far: where the bytes ahead end too early it blames its start, and
elsewhere it takes some of them, of which none can be missing, and tells its value from these
alone. -/
structure Reaches (read : Read α) (reach : Reach) : Prop where
  short : ∀ cursor : Cursor, cursor.position ≤ cursor.data.size → reach.Lacks cursor.rest →
    read cursor = .error ⟨cursor.position⟩ (cursor.stranded reach)
  enough : ∀ ahead, ¬ reach.Lacks ahead →
    ∃ taken value, taken <+: ahead ∧ Reads read taken value ∧
      ∀ fewer, fewer <+: taken → fewer ≠ taken → reach.Lacks fewer

/-- Changing the value of a read leaves its reach. -/
theorem Reaches.map {read : Read α} {reach : Reach} (reaches : read.Reaches reach)
    (change : α → β) : (read >>= fun value => pure (change value)).Reaches reach where
  short := by
    intro cursor inside lacks
    simp only [Bind.bind, EStateM.bind, reaches.short cursor inside lacks]
  enough := by
    intro ahead supplied
    obtain ⟨taken, value, next, reads, all⟩ := reaches.enough ahead supplied
    exact ⟨taken, change value, next, reads.map change, all⟩

/-- Some of the bytes of a width, but not all, are too few for it. -/
theorem lacks_width {taken fewer : List UInt8} (part : fewer <+: taken) (less : fewer ≠ taken) :
    (Reach.width taken.length).Lacks fewer :=
  Nat.lt_of_le_of_ne part.length_le fun same => less (part.eq_of_length same)

/-- A run of bytes reaches over its length. -/
theorem reaches_bytes (count : Nat) : (bytes count).Reaches (.width count) where
  short := by
    intro cursor inside lacks
    have beyond : ¬ cursor.position + count ≤ cursor.data.size := by
      rw [Reach.Lacks, cursor.length_rest, Cursor.remaining] at lacks
      omega
    rw [bytes, if_neg beyond]
    rfl
  enough := by
    intro ahead supplied
    have whole : (ahead.take count).length = count :=
      List.length_take_of_le (Nat.le_of_not_lt supplied)
    have reads := reads_bytes (ahead.take count)
    rw [whole] at reads
    refine ⟨ahead.take count, _, List.take_prefix _ _, reads, fun fewer part less => ?_⟩
    have lacks := lacks_width part less
    rwa [whole] at lacks

/-- One byte reaches over itself. -/
theorem reaches_byte : byte.Reaches (.width 1) where
  short := by
    intro cursor inside lacks
    have past : cursor.peek? = none := by
      rw [Reach.Lacks, cursor.length_rest, Cursor.remaining] at lacks
      exact Array.getElem?_eq_none (by omega)
    simp only [byte, past]
    rfl
  enough := by
    intro ahead supplied
    cases ahead with
    | nil => exact absurd Nat.zero_lt_one supplied
    | cons first ahead =>
      exact ⟨[first], first, ⟨ahead, rfl⟩, reads_byte first, fun _ => lacks_width⟩

/-- No terminator is found where none lies ahead. -/
theorem terminator?_eq_none {cursor : Cursor} (unbroken : 0 ∉ cursor.rest) :
    cursor.data.terminator? cursor.position = none := by
  cases found : cursor.data.terminator? cursor.position with
  | none => rfl
  | some stop =>
    -- What is found is a zero, and it is one of the bytes ahead.
    obtain ⟨later, zero⟩ := Bytes.terminator?_spec found
    have member : cursor.data.toList[stop]? = some 0 := by rwa [Array.getElem?_toList]
    have ahead : cursor.rest[stop - cursor.position]? = some 0 := by
      rwa [Cursor.rest, List.getElem?_drop, Nat.add_sub_cancel' later]
    exact absurd (List.mem_of_getElem? ahead) unbroken

/-- A text reaches up to its terminator. -/
theorem reaches_text : text.Reaches .terminated where
  short := by
    intro cursor inside lacks
    simp only [text, terminator?_eq_none lacks]
    rfl
  enough := by
    intro ahead supplied
    obtain ⟨spelled, rest, rfl, unbroken⟩ := List.eq_append_cons_of_mem (not_not.mp supplied)
    refine ⟨spelled ++ [0], _, ⟨rest, by simp⟩, reads_terminated unbroken,
      fun fewer part less => ?_⟩
    -- Without the terminator, all that is left is some of the text.
    rcases List.prefix_concat_iff.mp part with same | within
    · exact absurd same less
    · exact fun zero => unbroken (within.subset zero)

/-- Collecting fails only behind the last byte, and blames where it started. -/
theorem eq_toEnd_of_collect {start : Nat} {cursor after : Cursor} {digits : Leb128.Digits}
    {fault : Truncated} (inside : cursor.position ≤ cursor.data.size)
    (failed : Leb128.collect start cursor digits = .error fault after) :
    fault = ⟨start⟩ ∧ after = cursor.toEnd := by
  -- Each round passes a byte, and the last one finds none.
  fun_induction Leb128.collect start cursor digits with
  | case1 cursor digits within byte pushed goes ih => exact ih within failed
  | case2 cursor digits within byte pushed stops => contradiction
  | case3 cursor digits past =>
    obtain ⟨rfl, rfl⟩ := EStateM.Result.error.inj failed
    have last : cursor.position = cursor.data.size := by omega
    exact ⟨rfl, by rw [Cursor.toEnd, ← last]⟩

/-- Bytes of which one asks for no other have a first one that does not. -/
theorem exists_ending {ahead : List UInt8} (ends : ∃ byte ∈ ahead, ¬ Leb128.continues byte) :
    ∃ more last rest, ahead = more ++ last :: rest ∧ (∀ byte ∈ more, Leb128.continues byte) ∧
      ¬ Leb128.continues last := by
  have found : (ahead.find? fun byte => !Leb128.continues byte).isSome := by
    rw [List.find?_isSome]
    simpa using ends
  obtain ⟨last, first⟩ := Option.isSome_iff_exists.mp found
  obtain ⟨stops, more, rest, spelled, goes⟩ := List.find?_eq_some_iff_append.mp first
  exact ⟨more, last, rest, spelled, by simpa using goes, by simpa using stops⟩

/-- The digits of a number reach up to the first byte that asks for no other. -/
theorem reaches_digits : digits.Reaches .continued where
  short := by
    intro cursor inside lacks
    have more : ∀ byte ∈ cursor.rest, 128 ≤ byte.toNat := by
      simpa [Reach.Lacks, Leb128.continues_eq] using lacks
    obtain ⟨fault, after, failed⟩ :=
      (Leb128.collect_fails_iff cursor.position cursor ⟨0, 0, 0⟩).mpr more
    obtain ⟨rfl, rfl⟩ := eq_toEnd_of_collect inside failed
    exact failed
  enough := by
    intro ahead supplied
    have ending : ∃ byte ∈ ahead, ¬ Leb128.continues byte := by simpa [Reach.Lacks] using supplied
    obtain ⟨more, last, rest, rfl, goes, ends⟩ := exists_ending ending
    have whole : Leb128.Whole (more ++ [last]) := by
      refine Leb128.whole_concat (fun byte member => ?_) ?_
      · simpa [Leb128.continues_eq] using goes byte member
      · simpa [Leb128.continues_eq] using ends
    refine ⟨more ++ [last], _, ⟨rest, by simp⟩, Leb128.reads_digitsOf whole,
      fun fewer part less => ?_⟩
    -- Without the last byte, all that is left asks for another one.
    rcases List.prefix_concat_iff.mp part with same | within
    · exact absurd same less
    · exact fun byte member => goes byte (within.subset member)

/-- A number of a whole number of bytes reaches over these. -/
theorem reaches_unsigned (width : Nat) : (unsigned width).Reaches (.width width) :=
  (reaches_bytes width).map fun bytes => Bytes.littleEndian bytes.toList

section Told

variable {read : Read α} {reach : Reach} {cursor after : Cursor}

/-- A read that fails lacks bytes, blames its start and strands the cursor. -/
theorem Reaches.of_error {fault : Truncated} (reaches : read.Reaches reach)
    (inside : cursor.position ≤ cursor.data.size) (failed : read cursor = .error fault after) :
    reach.Lacks cursor.rest ∧ fault = ⟨cursor.position⟩ ∧ after = cursor.stranded reach := by
  have lacks : reach.Lacks cursor.rest := by
    by_contra supplied
    obtain ⟨taken, value, next, reads, _⟩ := reaches.enough cursor.rest supplied
    rw [reads.here inside next] at failed
    contradiction
  rw [reaches.short cursor inside lacks] at failed
  obtain ⟨rfl, rfl⟩ := EStateM.Result.error.inj failed
  exact ⟨lacks, rfl, rfl⟩

/-- A read that succeeds moves over the bytes that its value is told from: over these it yields the
same wherever they stand, and over fewer it fails. -/
theorem Reaches.of_ok {value : α} (reaches : read.Reaches reach)
    (inside : cursor.position ≤ cursor.data.size) (done : read cursor = .ok value after) :
    after = cursor.advance (cursor.passed after).length ∧ Reads read (cursor.passed after) value ∧
      ∀ fewer, fewer <+: cursor.passed after → fewer ≠ cursor.passed after →
        ∀ behind, ∃ fault left, read (.between behind fewer) = .error fault left := by
  have supplied : ¬ reach.Lacks cursor.rest := by
    intro lacks
    rw [reaches.short cursor inside lacks] at done
    contradiction
  obtain ⟨taken, told, next, reads, all⟩ := reaches.enough cursor.rest supplied
  rw [reads.here inside next] at done
  obtain ⟨rfl, rfl⟩ := EStateM.Result.ok.inj done
  rw [Cursor.passed_advance next]
  refine ⟨rfl, reads, fun fewer part less behind => ⟨_, _, reaches.short _ ?_ ?_⟩⟩
  · simp
  · rw [Cursor.between_rest]
    exact all fewer part less

end Told

end Read

end Footprint
