import Footprint.Proofs.Cursor.Watched

/-! Texts, runs of values and numbers of variable length on a machine that watches its slices, its
arithmetic and how often it goes round. -/

namespace Footprint.WatchedRead

open Leb128 (Digits)

variable {α β : Type}

section Reads

/-- A read that a trap stops. -/
def trapped (cause : Trap) : WatchedRead α := StateT.lift (Run.trap cause)

/-- Moves past some bytes. -/
def skip (count : Nat) : WatchedRead Unit := do
  let _ ← bytes count

/-- The place the cursor stands at. -/
def position : WatchedRead Nat := return (← get).position

/-- One byte in two's complement. -/
def signedByte : WatchedRead Int8 := return (← byte).toInt8

/-- An address of any width, of which the lowest eight bytes count. -/
def address (width : Nat) : WatchedRead UInt64 :=
  return .ofNat (Bytes.littleEndian ((← bytes width).toList.take 8))

/-- The text up to the next zero byte, which is read too. -/
def text : WatchedRead String := fun cursor => do
  let _ ← Run.slice cursor.data cursor.position cursor.data.size
  match cursor.data.terminator? cursor.position with
  | some stop =>
    let length ← Run.difference stop cursor.position
    let taken ← Run.slice cursor.data cursor.position stop
    let passed ← Run.counted (length + 1)
    let position ← Run.counted (cursor.position + passed)
    return (Text.Utf8.decode taken, { cursor with position })
  | none => throw ⟨cursor.position⟩

/-- A number of values, each read like the first, behind those already read. -/
def several (read : WatchedRead α) : Nat → Array α → WatchedRead (Array α)
  | 0, values => return values
  | count + 1, values => do several read count (values.push (← read))

end Reads

section Follows

/-- A run of bytes is passed without a trap. -/
theorem follows_skip (count : Nat) : (skip count).Follows (Read.skip count) :=
  (follows_bytes count).bind fun _ => follows_pure ()

/-- The place of the cursor is told without a trap. -/
theorem follows_position : position.Follows Read.position where
  same := fun _ _ => rfl
  stays := by
    intro cursor value after sound done
    cases done
    exact sound

/-- A byte in two's complement is copied as it is. -/
theorem follows_signedByte : signedByte.Follows Read.signedByte := follows_byte.map UInt8.toInt8

/-- An address is read without a trap. -/
theorem follows_address (width : Nat) : (address width).Follows (Read.address width) :=
  (follows_bytes width).map fun bytes => UInt64.ofNat (Bytes.littleEndian (bytes.toList.take 8))

/-- A text ends in front of a byte that is inside, so that no sum behind it is too great. -/
theorem follows_text : text.Follows Read.text where
  same := by
    intro cursor sound
    obtain ⟨inside, bounded⟩ := sound
    rw [text, Read.text, Run.slice_eq_pure inside (Nat.le_refl _), pure_bind]
    cases found : cursor.data.terminator? cursor.position with
    | none => exact Run.yields_throw _
    | some stop =>
      obtain ⟨later, zero⟩ := Bytes.terminator?_spec found
      have within : stop < cursor.data.size := (Array.getElem?_eq_some_iff.mp zero).1
      -- The zero byte behind the text is inside, and so is the place behind that.
      have passed : stop - cursor.position + 1 < UInt64.size := by omega
      have reached : cursor.position + (stop - cursor.position + 1) = stop + 1 := by omega
      dsimp only
      rw [Run.difference_eq_pure later, pure_bind, Run.slice_eq_pure later (Nat.le_of_lt within),
        pure_bind, Run.counted_eq_pure passed, pure_bind, reached,
        Run.counted_eq_pure (Nat.lt_of_le_of_lt within bounded), pure_bind]
      exact Run.yields_pure _
  stays := by
    intro cursor value after sound done
    have step := (Read.moves_text cursor value after done).1
    exact ⟨step.inside sound.inside, step.data ▸ sound.bounded⟩

/-- Values are read without a trap if each one is. -/
theorem follows_several {watched : WatchedRead α} {read : Read α} (follows : watched.Follows read)
    (count : Nat) (values : Array α) :
    (several watched count values).Follows (Read.several read count values) := by
  induction count generalizing values with
  | zero => exact follows_pure values
  | succ count ih => exact follows.bind fun value => ih (values.push value)

end Follows

section Digits

/-- A width as it is counted in four bytes, which stops at the greatest number of those. -/
def countedWidth (width : Nat) : Nat := min width (UInt32.size - 1)

/-- Collected bits of which the width is counted in four bytes. -/
def countedDigits (digits : Digits) : Digits := { digits with width := countedWidth digits.width }

/-- The bits collected from the bytes read so far and one more. -/
def push (digits : Digits) (byte : UInt8) : Run Truncated Digits := do
  let value ← if digits.width < 64
    then (digits.value ||| ·) <$> Run.shifted (Leb128.payload byte) digits.width
    else pure digits.value
  return ⟨value, countedWidth (digits.width + 7), byte⟩

/-- Bytes are taken up to the first that does not continue, for at most some rounds. -/
def collect (start : Nat) : Nat → Digits → WatchedRead Digits
  | 0, _ => trapped .rounds
  | rounds + 1, digits => do
    let byte ← fun cursor => Run.blaming (byte cursor) fun _ => ⟨start⟩
    let digits ← push digits byte
    if Leb128.continues byte then collect start rounds digits else return digits

/-- The digits of one number. -/
def digits : WatchedRead Digits := fun cursor =>
  collect cursor.position (cursor.remaining + 1) ⟨0, 0, 0⟩ cursor

/-- An unsigned number of variable length. -/
def unsignedLeb : WatchedRead UInt64 := return (← digits).unsigned

/-- A signed number of variable length. -/
def signedLeb : WatchedRead Int64 := do
  let digits ← digits
  if digits.width < 64 ∧ Leb128.negative digits.last then
    let sign ← (Run.shifted (-1) digits.width : Run Truncated UInt64)
    return (digits.value ||| sign).toInt64
  else return digits.value.toInt64

/-- Whether a word still has bits to fill is told by the width as it is counted. -/
theorem countedWidth_of_lt {width : Nat} (small : width < 64) : countedWidth width = width := by
  simp only [countedWidth, UInt32.size]
  omega

/-- A width that leaves no bits to fill is counted as such. -/
theorem countedWidth_lt_iff (width : Nat) : countedWidth width < 64 ↔ width < 64 := by
  simp only [countedWidth, UInt32.size]
  omega

/-- The bits of one more byte are collected without a trap. -/
theorem push_eq_pure (digits : Digits) (byte : UInt8) :
    push (countedDigits digits) byte = pure (countedDigits (digits.push byte)) := by
  have further : countedWidth (countedWidth digits.width + 7) = countedWidth (digits.width + 7) := by
    simp only [countedWidth, UInt32.size]
    omega
  rw [push]
  by_cases small : digits.width < 64
  · -- The shift is made only where the bits still fit.
    have counted : (countedDigits digits).width = digits.width := countedWidth_of_lt small
    rw [counted, if_pos small, Run.shifted_eq_pure small, map_pure, pure_bind, Digits.push,
      if_pos small]
    rfl
  · have counted : ¬ (countedDigits digits).width < 64 :=
      fun less => small ((countedWidth_lt_iff _).mp less)
    rw [if_neg counted, pure_bind, Digits.push, if_neg small]
    simp only [countedDigits, further]

/-- Bytes are collected without a trap, and in fewer rounds than are allowed. -/
theorem yields_collect (start rounds : Nat) {cursor : Cursor} (sound : cursor.Sound)
    (enough : cursor.remaining < rounds) (digits : Digits) :
    (collect start rounds (countedDigits digits) cursor).Yields
      ((outcome (Leb128.collect start cursor digits)).map fun (digits, after) =>
        (countedDigits digits, after)) := by
  -- The rounds left are always more than the bytes left, as each round takes a byte or fails.
  induction rounds generalizing cursor digits with
  | zero => contradiction
  | succ rounds ih =>
    rw [collect, Leb128.collect]
    change Run.Yields (Run.blaming (byte cursor) _ >>= fun (byte, after) =>
      (push (countedDigits digits) byte >>= fun digits => pure (digits, after)) >>=
        fun (digits, after) => (if Leb128.continues byte then collect start rounds digits
          else pure digits : WatchedRead Digits) after) _
    by_cases inside : cursor.position < cursor.data.size
    · have here : Read.byte cursor = .ok cursor.data[cursor.position] (cursor.advance 1) := by
        simp [Read.byte, Cursor.peek?, inside]
      have further : (cursor.advance 1).Sound := ⟨inside, sound.bounded⟩
      have fewer : (cursor.advance 1).remaining < rounds := by
        simp only [Cursor.remaining, Cursor.advance] at enough ⊢
        omega
      rw [follows_byte.passes sound here, dif_pos inside]
      change Run.Yields ((push (countedDigits digits) cursor.data[cursor.position] >>= fun digits =>
        pure (digits, cursor.advance 1)) >>= _) _
      rw [push_eq_pure, pure_bind, pure_bind]
      dsimp only
      split
      · exact ih further fewer _
      · exact Run.yields_pure _
    · have here : Read.byte cursor = .error ⟨cursor.position⟩ cursor := by
        simp [Read.byte, Cursor.peek?, inside]
      rw [follows_byte.fails sound here, dif_neg inside]
      exact Run.yields_throw _

/-- The digits of a number are read without a trap. -/
theorem follows_digits :
    digits.Follows (Read.digits >>= fun digits => pure (countedDigits digits)) where
  same := by
    intro cursor sound
    have same : outcome ((Read.digits >>= fun digits => pure (countedDigits digits)) cursor) =
        (outcome (Leb128.collect cursor.position cursor ⟨0, 0, 0⟩)).map fun (digits, after) =>
          (countedDigits digits, after) := by
      simp only [Bind.bind, EStateM.bind, Read.digits]
      cases Leb128.collect cursor.position cursor ⟨0, 0, 0⟩ <;> rfl
    rw [same]
    exact yields_collect cursor.position (cursor.remaining + 1) sound (Nat.lt_succ_self _) ⟨0, 0, 0⟩
  stays := by
    intro cursor value after sound done
    have step := (Read.moves_digits.bind fun _ => Read.keeps_pure _) cursor value after done
    exact ⟨step.1.inside sound.inside, step.1.data ▸ sound.bounded⟩

/-- An unsigned number of variable length is read without a trap. -/
theorem follows_unsignedLeb : unsignedLeb.Follows Read.unsignedLeb := by
  have follows := follows_digits.map Digits.unsigned
  rwa [bind_assoc] at follows

/-- Counting the width leaves the signed number. -/
theorem signed_countedDigits (digits : Digits) :
    (countedDigits digits).signed = digits.signed := by
  simp only [Digits.signed, countedDigits, countedWidth_lt_iff]
  -- A width that is counted short leaves no bits to fill with the sign.
  by_cases small : digits.width < 64
  · rw [countedWidth_of_lt small]
  · simp only [small, false_and, if_false]

/-- A signed number of variable length is read without a trap. -/
theorem follows_signedLeb : signedLeb.Follows Read.signedLeb := by
  have follows : signedLeb.Follows ((Read.digits >>= fun digits => pure (countedDigits digits)) >>=
      fun digits => pure digits.signed) := by
    refine follows_digits.bind fun digits => ?_
    rw [Digits.signed]
    split
    · rename_i fills
      rw [Run.shifted_eq_pure fills.1]
      exact follows_pure _
    · exact follows_pure _
  simp only [bind_assoc, pure_bind, signed_countedDigits] at follows
  exact follows

end Digits

end Footprint.WatchedRead
