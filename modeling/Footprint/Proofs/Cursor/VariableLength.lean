import Footprint.Proofs.Cursor.Leb128
import Footprint.Proofs.Cursor.WatchedLoops
import Mathlib.Algebra.BigOperators.Fin

/-! Numbers of variable length are exact up to whole words, however many bytes they take. -/

namespace Footprint

namespace Cursor

/-- The bytes ahead of a cursor inside its bytes are the next one and those ahead of that one. -/
theorem rest_eq_cons {cursor : Cursor} (inside : cursor.position < cursor.data.size) :
    cursor.rest = cursor.data[cursor.position] :: (cursor.advance 1).rest := by
  simp only [rest, advance]
  rw [List.drop_eq_getElem_cons (by simpa using inside), Array.getElem_toList]

/-- Nothing lies ahead of a cursor at the end. -/
theorem rest_eq_nil {cursor : Cursor} (past : cursor.data.size ≤ cursor.position) :
    cursor.rest = [] :=
  List.drop_eq_nil_of_le (by simpa using past)

/-- A cursor stands between the bytes behind it and those ahead. -/
theorem eq_between {cursor : Cursor} (inside : cursor.position ≤ cursor.data.size) :
    cursor = between (cursor.data.toList.take cursor.position) cursor.rest := by
  obtain ⟨data, position⟩ := cursor
  have placed : (data.toList.take position).length = position := by simpa using inside
  rw [between, rest, List.take_append_drop, placed]

end Cursor

/-- A value whose bytes lie next is read from there, and the cursor moves over these bytes. -/
theorem Reads.here {α : Type} {read : Read α} {bytes : List UInt8} {value : α}
    (reads : Reads read bytes value) {cursor : Cursor} (inside : cursor.position ≤ cursor.data.size)
    (next : bytes <+: cursor.rest) : read cursor = .ok value (cursor.advance bytes.length) := by
  obtain ⟨ahead, rest⟩ := next
  rw [Cursor.eq_between inside, ← rest, reads, Cursor.between_advance]

/-- A value whose bytes lie next, if there are any, is read from there. -/
theorem Reads.next {α : Type} {read : Read α} {bytes : List UInt8} {value : α}
    (reads : Reads read bytes value) (nonempty : bytes ≠ []) {cursor : Cursor}
    (next : bytes <+: cursor.rest) : read cursor = .ok value (cursor.advance bytes.length) := by
  refine reads.here ?_ next
  -- Something lies ahead, so that the cursor is not past the end.
  by_contra outside
  rw [Cursor.rest_eq_nil (Nat.le_of_not_le outside)] at next
  exact nonempty (List.prefix_nil.mp next)

namespace Leb128

/-- The sum of the payloads of bytes, of which each stands seven bits above the one before it. -/
def payloadSum (bytes : List UInt8) : Nat :=
  ∑ place : Fin bytes.length, bytes[place].toNat % 128 * 2 ^ (7 * place.val)

/-- The number that bytes spell is the sum of their payloads. -/
theorem natural_eq (bytes : List UInt8) : natural bytes = payloadSum bytes := by
  induction bytes with
  | nil => rfl
  | cons byte rest ih =>
    -- Each byte behind the first one stands seven bits higher than it does without that one.
    have higher (place : Fin rest.length) : rest[place].toNat % 128 * 2 ^ (7 * (place.val + 1)) =
        128 * (rest[place].toNat % 128 * 2 ^ (7 * place.val)) := by
      rw [Nat.mul_add, Nat.pow_add]
      ring
    have others : payloadSum (byte :: rest) = byte.toNat % 128 * 2 ^ (7 * 0) +
        ∑ place : Fin rest.length, rest[place].toNat % 128 * 2 ^ (7 * (place.val + 1)) :=
      Fin.sum_univ_succ _
    simp only [higher, ← Finset.mul_sum] at others
    rw [others, natural, ih, payloadSum]
    ring

/-- All bytes of a number but the last one are followed by more. -/
theorem whole_concat {bytes : List UInt8} {last : UInt8} (more : ∀ byte ∈ bytes, 128 ≤ byte.toNat)
    (ends : last.toNat < 128) : Whole (bytes ++ [last]) := by
  induction bytes with
  | nil =>
    have stops : continues last = false := by simpa [continues_eq] using ends
    simp [Whole, stops]
  | cons byte bytes ih =>
    obtain ⟨first, others⟩ := List.forall_mem_cons.mp more
    have goes : continues byte = true := by simpa [continues_eq] using first
    rw [List.cons_append, Whole, if_pos goes]
    exact ih others

/-- The signed number that bytes spell is the sum of their payloads, less a power of two if the
seventh bit of the last byte is set. -/
theorem integer_concat (bytes : List UInt8) {last : UInt8} (ends : last.toNat < 128) :
    integer (bytes ++ [last]) =
      if 64 ≤ last.toNat then
        (payloadSum (bytes ++ [last]) : Int) - 2 ^ (7 * (bytes.length + 1))
      else payloadSum (bytes ++ [last]) := by
  have sign : negative last = decide (64 ≤ last.toNat) := by
    rw [negative_eq, Nat.mod_eq_of_lt ends]
  rw [integer, natural_eq]
  simp only [List.getLast?_concat, Option.getD_some, sign, decide_eq_true_eq, List.length_append,
    List.length_singleton]

/-- Collecting fails exactly if every byte ahead asks for another one. -/
theorem collect_fails_iff (start : Nat) (cursor : Cursor) (digits : Digits) :
    (∃ fault after, collect start cursor digits = .error fault after) ↔
      ∀ byte ∈ cursor.rest, 128 ≤ byte.toNat := by
  -- Each round takes the next byte, and the last one finds none or one that ends the number.
  fun_induction collect start cursor digits with
  | case1 cursor digits inside byte digits' more ih =>
    have first : 128 ≤ byte.toNat := by simpa [continues_eq] using more
    rw [ih, Cursor.rest_eq_cons inside, List.forall_mem_cons]
    exact ⟨fun others => ⟨first, others⟩, And.right⟩
  | case2 cursor digits inside byte digits' last =>
    have ends : ¬ 128 ≤ byte.toNat := by simpa [continues_eq] using last
    rw [Cursor.rest_eq_cons inside, List.forall_mem_cons]
    simp [byte, ends]
  | case3 cursor digits past =>
    rw [Cursor.rest_eq_nil (Nat.le_of_not_lt past)]
    simp

/-- A number in two's complement, in one byte more than counted; what does not fit is lost. -/
def encode : Nat → Int → List UInt8
  | 0, number => [.ofNat (number % 128).toNat]
  | count + 1, number => .ofNat ((number % 128).toNat + 128) :: encode count (number / 128)

/-- A number is encoded in one byte more than counted. -/
@[simp] theorem length_encode (count : Nat) (number : Int) :
    (encode count number).length = count + 1 := by
  induction count generalizing number with
  | zero => rfl
  | succ count ih => rw [encode, List.length_cons, ih]

/-- A number is encoded in at least one byte. -/
theorem encode_ne_nil (count : Nat) (number : Int) : encode count number ≠ [] :=
  List.ne_nil_of_length_eq_add_one (length_encode count number)

/-- The bytes that encode a number are whole. -/
theorem whole_encode (count : Nat) (number : Int) : Whole (encode count number) := by
  induction count generalizing number with
  | zero =>
    apply whole_last
    omega
  | succ count ih =>
    refine whole_more ?_ (ih _)
    omega

/-- The payload of a byte of an encoding is the lowest digit of what is left to encode. -/
theorem toNat_digit (number : Int) :
    (UInt8.ofNat (number % 128).toNat).toNat = (number % 128).toNat ∧
      (UInt8.ofNat ((number % 128).toNat + 128)).toNat = (number % 128).toNat + 128 := by
  simp only [UInt8.toNat_ofNat']
  omega

/-- A natural number that fits its bytes is spelled by them. -/
theorem natural_encode (count : Nat) {number : Nat} (fits : number < 128 ^ (count + 1)) :
    natural (encode count number) = number := by
  -- The first byte spells the remainder, and the others the quotient.
  induction count generalizing number with
  | zero =>
    rw [encode, natural, natural, (toNat_digit number).1]
    omega
  | succ count ih =>
    have quotient : (number : Int) / 128 = (number / 128 : Nat) := rfl
    have less : number / 128 < 128 ^ (count + 1) := by
      rw [Nat.pow_succ] at fits
      omega
    rw [encode, natural, (toNat_digit number).2, quotient, ih less]
    omega

/-- An integer that fits its bytes is spelled by them. -/
theorem integer_encode (count : Nat) {number : Int} (least : -(64 * 128 ^ count) ≤ number)
    (most : number < 64 * 128 ^ count) : integer (encode count number) = number := by
  induction count generalizing number with
  | zero =>
    have digit := (toNat_digit number).1
    have sign := negative_eq (UInt8.ofNat (number % 128).toNat)
    rw [digit] at sign
    simp only [encode, integer, natural, List.getLast?_singleton, Option.getD_some, digit, sign,
      List.length_singleton, decide_eq_true_eq]
    split <;> omega
  | succ count ih =>
    have power : (128 : Int) ^ (count + 1) = 128 * 128 ^ count := by rw [pow_succ, mul_comm]
    have quotient : integer (encode count (number / 128)) = number / 128 :=
      ih (by omega) (by omega)
    rw [encode, integer_cons (encode_ne_nil count _), (toNat_digit number).2, quotient]
    omega

/-- A word reads back from every encoding that it fits. -/
theorem reads_encode (count : Nat) {value : UInt64} (fits : value.toNat < 128 ^ (count + 1)) :
    Reads Read.unsignedLeb (encode count value.toNat) value := by
  have reads := reads_natural (whole_encode count value.toNat)
  rwa [natural_encode count fits, UInt64.ofNat_toNat] at reads

/-- A signed word reads back from every encoding that it fits. -/
theorem reads_encode_signed (count : Nat) {number : Int64}
    (least : -(64 * 128 ^ count) ≤ number.toInt) (most : number.toInt < 64 * 128 ^ count) :
    Reads Read.signedLeb (encode count number.toInt) number := by
  have reads := reads_integer (whole_encode count number.toInt)
  rwa [integer_encode count least most, Int64.ofInt_toInt] at reads

end Leb128

namespace Read

open Leb128

/-- A number fails to be read if its digits do. -/
theorem fails_digits_iff {α : Type} (change : Digits → α) (cursor : Cursor) :
    (∃ fault after, (digits >>= fun digits => (pure (change digits) : Read α)) cursor =
        .error fault after) ↔
      ∀ byte ∈ cursor.rest, 128 ≤ byte.toNat := by
  rw [← collect_fails_iff cursor.position cursor ⟨0, 0, 0⟩]
  simp only [bind, EStateM.bind, digits]
  cases collect cursor.position cursor ⟨0, 0, 0⟩ with
  | error fault after => simp
  | ok digits after => simp [pure, EStateM.pure]

/--
Whatever the number of bytes that a number takes, its unsigned value is the sum of their payloads up
to whole words, and its signed value that sum, less the power of two above it if the seventh bit of
the last byte is set, up to whole words. The cursor moves over these bytes, no word is shifted by its
width or more, and a read fails exactly if every byte ahead asks for another one.

So every word reads back from each of its encodings, the shortest one and all longer ones.
-/
theorem leb128_modulo_word (cursor : Cursor) :
    (∀ (bytes : List UInt8) (last : UInt8), (∀ byte ∈ bytes, 128 ≤ byte.toNat) →
        last.toNat < 128 → bytes ++ [last] <+: cursor.rest →
        ∃ (value : UInt64) (number : Int64),
          unsignedLeb cursor = .ok value (cursor.advance (bytes.length + 1)) ∧
          signedLeb cursor = .ok number (cursor.advance (bytes.length + 1)) ∧
          value.toNat = payloadSum (bytes ++ [last]) % 2 ^ 64 ∧
          number.toInt = Int.bmod
            (if 64 ≤ last.toNat then
              (payloadSum (bytes ++ [last]) : Int) - 2 ^ (7 * (bytes.length + 1))
            else payloadSum (bytes ++ [last]))
            (2 ^ 64)) ∧
      (cursor.Sound →
        Run.Yields (WatchedRead.unsignedLeb cursor) (WatchedRead.outcome (unsignedLeb cursor)) ∧
        Run.Yields (WatchedRead.signedLeb cursor) (WatchedRead.outcome (signedLeb cursor))) ∧
      ((∃ fault after, unsignedLeb cursor = .error fault after) ↔
        ∀ byte ∈ cursor.rest, 128 ≤ byte.toNat) ∧
      ((∃ fault after, signedLeb cursor = .error fault after) ↔
        ∀ byte ∈ cursor.rest, 128 ≤ byte.toNat) ∧
      (∀ (count : Nat) (value : UInt64), value.toNat < 128 ^ (count + 1) →
        encode count value.toNat <+: cursor.rest →
        unsignedLeb cursor = .ok value (cursor.advance (count + 1))) ∧
      ∀ (count : Nat) (number : Int64), -(64 * 128 ^ count) ≤ number.toInt →
        number.toInt < 64 * 128 ^ count → encode count number.toInt <+: cursor.rest →
        signedLeb cursor = .ok number (cursor.advance (count + 1)) := by
  refine ⟨?_, ?_, fails_digits_iff Digits.unsigned cursor, fails_digits_iff Digits.signed cursor,
    ?_, ?_⟩
  · intro bytes last more ends next
    have whole := whole_concat more ends
    have nonempty : bytes ++ [last] ≠ [] := List.concat_ne_nil last bytes
    have unsigned := (reads_natural whole).next nonempty next
    have signed := (reads_integer whole).next nonempty next
    rw [List.length_append, List.length_singleton] at unsigned signed
    refine ⟨_, _, unsigned, signed, ?_, ?_⟩
    · rw [natural_eq, UInt64.toNat_ofNat']
    · rw [integer_concat bytes ends, Int64.toInt_ofInt]
      rfl
  · intro sound
    exact ⟨WatchedRead.follows_unsignedLeb.same cursor sound,
      WatchedRead.follows_signedLeb.same cursor sound⟩
  · intro count value fits next
    have read := (reads_encode count fits).next (encode_ne_nil count _) next
    rwa [length_encode] at read
  · intro count number least most next
    have read := (reads_encode_signed count least most).next (encode_ne_nil count _) next
    rwa [length_encode] at read

/-- Ten bytes, each with all seven bits of its payload set, behind one byte and before another. -/
def overlong : Cursor :=
  ⟨#[0x55, 0xFF, 0xFF, 0xFF, 0xFF, 0xFF, 0xFF, 0xFF, 0xFF, 0xFF, 0x7F, 0x80], 1⟩

/-- Of seventy bits that are set, a word keeps sixty-four, which are all of its own; as a signed
number they are minus one, which is also encoded so. -/
theorem leb128_modulo_word_overlong :
    (∀ byte ∈ List.replicate 9 (0xFF : UInt8), 128 ≤ byte.toNat) ∧ (0x7F : UInt8).toNat < 128 ∧
      List.replicate 9 0xFF ++ [0x7F] <+: overlong.rest ∧ overlong.Sound ∧
      payloadSum (List.replicate 9 0xFF ++ [0x7F]) = 2 ^ 70 - 1 ∧
      (∃ (value : UInt64) (number : Int64),
        unsignedLeb overlong = .ok value (overlong.advance 10) ∧
        signedLeb overlong = .ok number (overlong.advance 10) ∧
        value.toNat = 2 ^ 64 - 1 ∧ number.toInt = -1) ∧
      Run.Yields (WatchedRead.signedLeb overlong) (WatchedRead.outcome (signedLeb overlong)) ∧
      signedLeb overlong = .ok (-1) (overlong.advance 10) := by
  have more : ∀ byte ∈ List.replicate 9 (0xFF : UInt8), 128 ≤ byte.toNat := by
    intro byte member
    rw [List.eq_of_mem_replicate member]
    decide
  have ends : (0x7F : UInt8).toNat < 128 := by decide
  have next : List.replicate 9 0xFF ++ [0x7F] <+: overlong.rest := by decide
  have sound : overlong.Sound := ⟨by decide, by decide⟩
  have sum : payloadSum (List.replicate 9 0xFF ++ [0x7F]) = 2 ^ 70 - 1 := by decide +kernel
  obtain ⟨exact, watched, _, _, _, encoded⟩ := leb128_modulo_word overlong
  obtain ⟨value, number, unsigned, signed, value_eq, number_eq⟩ := exact _ _ more ends next
  rw [sum] at value_eq number_eq
  exact ⟨more, ends, next, sound, sum,
    ⟨value, number, unsigned, signed, value_eq, number_eq.trans (by decide)⟩, (watched sound).2,
    encoded 9 (-1) (by decide) (by decide) (by decide)⟩

end Read

end Footprint
