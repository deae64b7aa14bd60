import Footprint.Cursor.Leb128

/-! Reads never move a cursor back, and never past the end of its bytes. -/

namespace Footprint

namespace Cursor

/-- A later cursor over the same bytes, which is inside them if the earlier one is. -/
structure Step (before after : Cursor) : Prop where
  data : after.data = before.data
  forward : before.position ≤ after.position
  inside : before.position ≤ before.data.size → after.position ≤ after.data.size

/-- A cursor is a step away from itself. -/
theorem Step.refl (cursor : Cursor) : Step cursor cursor :=
  ⟨rfl, Nat.le_refl _, id⟩

/-- Steps follow one another. -/
theorem Step.trans {first second third : Cursor}
    (early : Step first second) (late : Step second third) :
    Step first third where
  data := late.data.trans early.data
  forward := Nat.le_trans early.forward late.forward
  inside := fun within => late.inside (early.inside within)

end Cursor

namespace Read

variable {α β : Type}

/-- A read that, where it succeeds, makes a step. -/
def Keeps (read : Read α) : Prop :=
  ∀ before value after, read before = .ok value after → before.Step after

/-- A read that, where it succeeds, makes a step over at least one byte. -/
def Moves (read : Read α) : Prop :=
  ∀ before value after, read before = .ok value after →
    before.Step after ∧ before.position < after.position

/-- A read that moves makes a step. -/
theorem Moves.keeps {read : Read α} (moves : Moves read) : Keeps read :=
  fun before value after done => (moves before value after done).1

/-- A value that is already known needs no step. -/
theorem keeps_pure (value : α) : Keeps (pure value : Read α) := by
  intro before result after done
  simp only [pure, EStateM.pure, EStateM.Result.ok.injEq] at done
  rw [← done.2]
  exact .refl before

/-- Two reads in a row succeed if both do, the second from where the first ended. -/
theorem bind_eq_ok {read : Read α} {use : α → Read β} {before after : Cursor} {result : β}
    (done : (read >>= use) before = .ok result after) :
    ∃ value middle, read before = .ok value middle ∧ use value middle = .ok result after := by
  simp only [bind, EStateM.bind] at done
  split at done
  · exact ⟨_, _, by assumption, done⟩
  · simp at done

/-- Two reads in a row go on where the first one ended. -/
theorem bind_of_ok {read : Read α} {use : α → Read β} {before middle : Cursor} {value : α}
    (done : read before = .ok value middle) : (read >>= use) before = use value middle := by
  simp only [bind, EStateM.bind, done]

/-- Asking for the cursor leaves it where it is. -/
theorem get_eq (cursor : Cursor) : (get : Read Cursor) cursor = .ok cursor cursor := rfl

/-- Asking for the place of the cursor leaves it there. -/
theorem position_eq (cursor : Cursor) : position cursor = .ok cursor.position cursor := rfl

/-- Two reads in a row step if both do. -/
theorem Keeps.bind {read : Read α} {use : α → Read β} (first : Keeps read)
    (second : ∀ value, Keeps (use value)) : Keeps (read >>= use) := by
  intro before result after done
  obtain ⟨value, middle, early, late⟩ := bind_eq_ok done
  exact (first _ _ _ early).trans (second _ _ _ _ late)

/-- Two reads in a row move if the first one does. -/
theorem Moves.bind {read : Read α} {use : α → Read β} (first : Moves read)
    (second : ∀ value, Keeps (use value)) : Moves (read >>= use) := by
  intro before result after done
  obtain ⟨value, middle, early, late⟩ := bind_eq_ok done
  have step := second _ _ _ _ late
  have moved := first _ _ _ early
  exact ⟨moved.1.trans step, Nat.lt_of_lt_of_le moved.2 step.forward⟩

/-- Changing the value of a read leaves its step. -/
theorem Keeps.map {read : Read α} (keeps : Keeps read) (change : α → β) :
    Keeps (change <$> read) := by
  intro before result after done
  simp only [Functor.map, EStateM.map] at done
  split at done
  · rename_i value middle early
    simp only [EStateM.Result.ok.injEq] at done
    rw [← done.2]
    exact keeps _ _ _ early
  · simp at done

/-- A run of bytes makes a step of its length. -/
theorem bytes_eq_ok {count : Nat} {before after : Cursor} {value : Bytes}
    (done : bytes count before = .ok value after) :
    before.position + count ≤ before.data.size ∧ after = before.advance count ∧
      value = before.data.slice before.position (before.position + count) := by
  simp only [bytes] at done
  split at done
  · simp only [EStateM.Result.ok.injEq] at done
    exact ⟨by assumption, done.2.symm, done.1.symm⟩
  · simp at done

/-- A run of bytes lies inside the bytes. -/
theorem keeps_bytes (count : Nat) : Keeps (bytes count) := by
  intro before value after done
  obtain ⟨within, rfl, _⟩ := bytes_eq_ok done
  exact ⟨rfl, Nat.le_add_right _ _, fun _ => within⟩

/-- One byte moves the cursor. -/
theorem moves_byte : Moves byte := by
  intro before value after done
  simp only [byte] at done
  split at done
  · rename_i found ahead
    simp only [EStateM.Result.ok.injEq] at done
    obtain ⟨rfl, rfl⟩ := done
    have within : before.position < before.data.size := by
      simp only [Cursor.peek?] at ahead
      exact (Array.getElem?_eq_some_iff.mp ahead).1
    exact ⟨⟨rfl, Nat.le_add_right _ _, fun _ => within⟩, Nat.lt_succ_self _⟩
  · simp at done

/-- A text and its terminator move the cursor. -/
theorem moves_text : Moves text := by
  intro before value after done
  simp only [text] at done
  split at done
  · rename_i stop found
    simp only [EStateM.Result.ok.injEq] at done
    obtain ⟨rfl, rfl⟩ := done
    obtain ⟨later, zero⟩ := Bytes.terminator?_spec found
    have within : stop < before.data.size := (Array.getElem?_eq_some_iff.mp zero).1
    exact ⟨⟨rfl, Nat.le_succ_of_le later, fun _ => within⟩, Nat.lt_succ_of_le later⟩
  · simp at done

/-- Collected digits are at least one byte. -/
private theorem collect_step {start : Nat} {digits result : Leb128.Digits} {before after : Cursor}
    (done : Leb128.collect start before digits = .ok result after) :
    before.Step after ∧ before.position < after.position := by
  -- Each round reads one byte and hands on or ends.
  fun_induction Leb128.collect start before digits with
  | case1 before digits inside byte digits' more ih =>
    have later := ih done
    exact ⟨⟨later.1.data, Nat.le_of_succ_le later.1.forward, fun _ => later.1.inside inside⟩,
      Nat.lt_of_succ_lt later.2⟩
  | case2 before digits inside byte digits' more =>
    simp only [EStateM.Result.ok.injEq] at done
    obtain ⟨_, rfl⟩ := done
    exact ⟨⟨rfl, Nat.le_add_right _ _, fun _ => inside⟩, Nat.lt_succ_self _⟩
  | case3 => simp at done

/-- The digits of a number move the cursor. -/
theorem moves_digits : Moves digits := fun _ _ _ done => collect_step done

/-- A number of a given width steps over it. -/
theorem keeps_unsigned (width : Nat) : Keeps (unsigned width) :=
  (keeps_bytes width).bind fun _ => keeps_pure _

/-- Two bytes make a step. -/
theorem keeps_word16 : Keeps word16 := (keeps_unsigned 2).bind fun _ => keeps_pure _

/-- An unsigned number of variable length makes a step. -/
theorem moves_unsignedLeb : Moves unsignedLeb := moves_digits.bind fun _ => keeps_pure _

/-- A signed number of variable length makes a step. -/
theorem moves_signedLeb : Moves signedLeb := moves_digits.bind fun _ => keeps_pure _

end Read

end Footprint
