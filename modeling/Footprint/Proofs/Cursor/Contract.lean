import Footprint.Proofs.Cursor.Reach

/-! A cursor keeps its contract over every run of operations: it stays inside its bytes, tells
values from exactly the bytes it moves over, and blames a failure on the place where it began. -/

namespace Footprint

namespace Cursor

/-- What can be asked of a cursor. -/
inductive Operation where
  | byte
  | signedByte
  | word16
  | word32
  | word64
  | address (width : Nat)
  | unsignedLeb
  | signedLeb
  | text
  | bytes (count : Nat)
  | skip (count : Nat)
  | seek (place : Nat)
  /-- The next byte, which stays ahead. -/
  | peek
deriving DecidableEq, Repr

namespace Operation

/-- What an operation yields. -/
abbrev Value : Operation → Type
  | byte => UInt8
  | signedByte => Int8
  | word16 => UInt16
  | word32 => UInt32
  | word64 | address _ | unsignedLeb => UInt64
  | signedLeb => Int64
  | text => String
  | bytes _ => Bytes
  | skip _ | seek _ => Unit
  | peek => Option UInt8

/-- The read that an operation asks for. -/
def perform : (operation : Operation) → Read operation.Value
  | byte => Read.byte
  | signedByte => Read.signedByte
  | word16 => Read.word16
  | word32 => Read.word32
  | word64 => Read.word64
  | address width => Read.address width
  | unsignedLeb => Read.unsignedLeb
  | signedLeb => Read.signedLeb
  | text => Read.text
  | bytes count => Read.bytes count
  | skip count => Read.skip count
  | seek place => Read.seek place
  | peek => fun cursor => .ok cursor.peek? cursor

/-- The same read on a machine that watches its slices and its arithmetic. -/
def watched : (operation : Operation) → WatchedRead operation.Value
  | byte => WatchedRead.byte
  | signedByte => WatchedRead.signedByte
  | word16 => WatchedRead.word16
  | word32 => WatchedRead.word32
  | word64 => WatchedRead.word64
  | address width => WatchedRead.address width
  | unsignedLeb => WatchedRead.unsignedLeb
  | signedLeb => WatchedRead.signedLeb
  | text => WatchedRead.text
  | bytes count => WatchedRead.bytes count
  | skip count => WatchedRead.skip count
  | seek place => WatchedRead.seek place
  | peek => fun cursor => return (cursor.peek?, cursor)

/-- How far an operation that moves over bytes reaches. -/
def reach? : Operation → Option Reach
  | byte | signedByte => some (.width 1)
  | word16 => some (.width 2)
  | word32 => some (.width 4)
  | word64 => some (.width 8)
  | address count | bytes count | skip count => some (.width count)
  | unsignedLeb | signedLeb => some .continued
  | text => some .terminated
  | seek _ | peek => none

/-- Whether an operation cannot be done at a cursor. -/
def Lacks (operation : Operation) (cursor : Cursor) : Prop :=
  match operation with
  | seek place => cursor.data.size < place
  | _ => ∃ reach ∈ operation.reach?, reach.Lacks cursor.rest

/-- The place that a failure is blamed on: where the operation began, or the place it sought. -/
def blamed (operation : Operation) (cursor : Cursor) : Nat :=
  match operation with
  | seek place => place
  | _ => cursor.position

/-- No operation is stopped by a trap. -/
theorem follows (operation : Operation) : operation.watched.Follows operation.perform := by
  cases operation with
  | byte => exact WatchedRead.follows_byte
  | signedByte => exact WatchedRead.follows_signedByte
  | word16 => exact WatchedRead.follows_word16
  | word32 => exact WatchedRead.follows_word32
  | word64 => exact WatchedRead.follows_word64
  | address width => exact WatchedRead.follows_address width
  | unsignedLeb => exact WatchedRead.follows_unsignedLeb
  | signedLeb => exact WatchedRead.follows_signedLeb
  | text => exact WatchedRead.follows_text
  | bytes count => exact WatchedRead.follows_bytes count
  | skip count => exact WatchedRead.follows_skip count
  | seek place => exact WatchedRead.follows_seek place
  | peek =>
    constructor
    · exact fun _ _ => rfl
    · intro cursor value after sound done
      cases done
      exact sound

/-- An operation that moves over bytes reaches as far as told. -/
theorem reaches {operation : Operation} {reach : Reach} (told : operation.reach? = some reach) :
    operation.perform.Reaches reach := by
  cases operation <;> cases told
  case byte => exact Read.reaches_byte
  case signedByte => exact Read.reaches_byte.map UInt8.toInt8
  case word16 => exact (Read.reaches_unsigned 2).map UInt16.ofNat
  case word32 => exact (Read.reaches_unsigned 4).map UInt32.ofNat
  case word64 => exact (Read.reaches_unsigned 8).map UInt64.ofNat
  case address width =>
    exact (Read.reaches_bytes width).map fun bytes =>
      UInt64.ofNat (Bytes.littleEndian (bytes.toList.take 8))
  case unsignedLeb => exact Read.reaches_digits.map Leb128.Digits.unsigned
  case signedLeb => exact Read.reaches_digits.map Leb128.Digits.signed
  case text => exact Read.reaches_text
  case bytes count => exact Read.reaches_bytes count
  case skip count => exact (Read.reaches_bytes count).map fun _ => ()

/-- An operation that moves over bytes cannot be done where too few lie ahead. -/
theorem lacks_iff {operation : Operation} {reach : Reach} (told : operation.reach? = some reach)
    (cursor : Cursor) : operation.Lacks cursor ↔ reach.Lacks cursor.rest := by
  cases operation <;> cases told <;> simp [Lacks, reach?]

/-- An operation that moves over bytes blames the place where it began. -/
theorem blamed_eq {operation : Operation} {reach : Reach} (told : operation.reach? = some reach)
    (cursor : Cursor) : operation.blamed cursor = cursor.position := by
  cases operation <;> cases told <;> rfl

variable {operation : Operation} {cursor after : Cursor}

/-- An operation that fails could not be done, is blamed as told, and leaves the cursor where it was
unless it read byte by byte. -/
theorem of_error {fault : Truncated} (inside : cursor.position ≤ cursor.data.size)
    (failed : operation.perform cursor = .error fault after) :
    operation.Lacks cursor ∧ fault.offset = operation.blamed cursor ∧
      after = operation.reach?.elim cursor cursor.stranded := by
  cases told : operation.reach? with
  | some reach =>
    obtain ⟨lacks, rfl, rfl⟩ := (reaches told).of_error inside failed
    exact ⟨(lacks_iff told cursor).mpr lacks, (blamed_eq told cursor).symm, rfl⟩
  | none =>
    -- Only a place that is sought can be missed without a reach.
    cases operation with
    | seek place =>
      simp only [perform, Read.seek] at failed
      split at failed
      · contradiction
      · rename_i beyond
        cases failed
        exact ⟨Nat.lt_of_not_le beyond, rfl, rfl⟩
    | _ => contradiction

/-- An operation that succeeds could be done, and stays in the same bytes. -/
theorem of_ok {value : operation.Value} (inside : cursor.position ≤ cursor.data.size)
    (done : operation.perform cursor = .ok value after) :
    ¬ operation.Lacks cursor ∧ after.data = cursor.data := by
  cases told : operation.reach? with
  | some reach =>
    obtain ⟨moved, _⟩ := (reaches told).of_ok inside done
    refine ⟨fun lacks => ?_, by rw [moved, advance]⟩
    rw [(reaches told).short cursor inside ((lacks_iff told cursor).mp lacks)] at done
    contradiction
  | none =>
    cases operation with
    | seek place =>
      simp only [perform, Read.seek] at done
      split at done
      · cases done
        exact ⟨Nat.not_lt.mpr (by assumption), rfl⟩
      · contradiction
    | peek =>
      cases done
      exact ⟨fun lacks => by simp [Lacks, reach?] at lacks, rfl⟩
    | _ => contradiction

end Operation

/-- An operation, the cursor that it was asked of, and what it ended in. -/
structure Performed where
  operation : Operation
  before : Cursor
  result : EStateM.Result Truncated Cursor operation.Value

namespace Performed

/-- Where an operation leaves the cursor, whether it succeeds or fails. -/
def after (performed : Performed) : Cursor :=
  match performed.result with
  | .ok _ after | .error _ after => after

/-- An operation performed at a cursor. -/
def of (operation : Operation) (cursor : Cursor) : Performed :=
  ⟨operation, cursor, operation.perform cursor⟩

/-- What a cursor keeps to in one operation. -/
structure Kept (performed : Performed) : Prop where
  data : performed.after.data = performed.before.data
  inside : performed.after.position ≤ performed.after.data.size
  /-- No slice, index or sum is out of range. -/
  untrapped : (performed.operation.watched performed.before).Yields
    (WatchedRead.outcome performed.result)
  /-- What remains is counted without an underflow. -/
  measured : (Run.difference performed.after.data.size performed.after.position :
    Run Truncated Nat).Yields (pure performed.after.remaining)
  fails_iff : (∃ fault after, performed.result = .error fault after) ↔
    performed.operation.Lacks performed.before
  /-- A value is told from the bytes that were passed: over these the read yields the same wherever
  they stand, and over fewer of them it fails. -/
  told : ∀ value after, performed.result = .ok value after →
    performed.operation.reach? ≠ none →
      after = performed.before.advance (performed.before.passed after).length ∧
      Reads performed.operation.perform (performed.before.passed after) value ∧
      ∀ fewer, fewer <+: performed.before.passed after → fewer ≠ performed.before.passed after →
        ∀ behind, ∃ fault left,
          performed.operation.perform (.between behind fewer) = .error fault left
  blamed : ∀ fault after, performed.result = .error fault after →
    fault.offset = performed.operation.blamed performed.before
  unmoved : ∀ fault after, performed.result = .error fault after →
    performed.operation.reach? ≠ some .continued → after = performed.before
  /-- A number of variable length that never ends is passed to the end. -/
  exhausted : ∀ fault after, performed.result = .error fault after →
    performed.operation.reach? = some .continued →
      after.position = performed.before.data.size ∧
      ∀ byte ∈ performed.before.passed after, Leb128.continues byte
  /-- A place inside the bytes is reached. -/
  sought : ∀ place, performed.operation = .seek place → place ≤ performed.before.data.size →
    performed.after = { performed.before with position := place }
  /-- A look ahead tells the next byte, and passes none. -/
  peeked : performed.operation = .peek →
    performed = ⟨.peek, performed.before, .ok performed.before.rest.head? performed.before⟩

variable {operation : Operation} {cursor : Cursor}

/-- Wherever an operation leaves a cursor, the bytes are the same and the cursor is inside them. -/
theorem stays (sound : cursor.Sound) (operation : Operation) :
    (of operation cursor).after.data = cursor.data ∧ (of operation cursor).after.Sound := by
  cases done : operation.perform cursor with
  | ok value next =>
    have reached : (of operation cursor).after = next := by simp only [after, of, done]
    rw [reached]
    exact ⟨(Operation.of_ok sound.inside done).2, operation.follows.stays _ _ _ sound done⟩
  | error fault left =>
    have reached : (of operation cursor).after = left := by simp only [after, of, done]
    obtain ⟨-, -, rfl⟩ := Operation.of_error sound.inside done
    rw [reached]
    cases operation.reach? with
    | none => exact ⟨rfl, sound⟩
    | some reach => exact ⟨cursor.stranded_data reach, sound.stranded reach⟩

/-- A cursor inside its bytes keeps to its contract in every operation. -/
theorem kept (sound : cursor.Sound) (operation : Operation) : (of operation cursor).Kept where
  data := (stays sound operation).1
  inside := (stays sound operation).2.inside
  untrapped := operation.follows.same cursor sound
  measured := by
    rw [Run.difference_eq_pure (stays sound operation).2.inside]
    exact Run.yields_pure _
  fails_iff := by
    constructor
    · rintro ⟨fault, left, failed⟩
      exact (Operation.of_error sound.inside failed).1
    · intro lacks
      cases done : operation.perform cursor with
      | error fault left => exact ⟨fault, left, done⟩
      | ok value next => exact absurd lacks (Operation.of_ok sound.inside done).1
  told := by
    intro value next done reads
    obtain ⟨reach, told⟩ := Option.ne_none_iff_exists'.mp reads
    exact (Operation.reaches told).of_ok sound.inside done
  blamed := fun fault left failed => (Operation.of_error sound.inside failed).2.1
  unmoved := by
    intro fault left failed (other : operation.reach? ≠ some .continued)
    obtain ⟨-, -, rfl⟩ := Operation.of_error sound.inside failed
    -- Only a number of variable length strands a cursor elsewhere.
    cases told : operation.reach? with
    | none => rfl
    | some reach =>
      cases reach with
      | width count => rfl
      | terminated => rfl
      | continued => exact absurd told other
  exhausted := by
    intro fault left failed (told : operation.reach? = some .continued)
    obtain ⟨lacks, -, rfl⟩ := (Operation.reaches told).of_error sound.inside failed
    refine ⟨rfl, ?_⟩
    change ∀ byte ∈ cursor.passed cursor.toEnd, _
    rw [cursor.passed_toEnd]
    exact lacks
  sought := by
    rintro place rfl inside
    have done : (Operation.seek place).perform cursor = .ok () { cursor with position := place } :=
      if_pos inside
    simp only [after, of, done]
  peeked := by
    rintro rfl
    have next : cursor.rest.head? = cursor.peek? := by
      rw [rest, List.head?_drop, Array.getElem?_toList, peek?]
    simp only [of, next]
    rfl

end Performed

/-- Operations performed one after the other, each where the one before it left the cursor, whether
that one succeeded or failed. -/
def history (cursor : Cursor) : List Operation → List Performed
  | [] => []
  | operation :: operations =>
    .of operation cursor :: history (Performed.of operation cursor).after operations

/-- A cursor inside its bytes stays in them and keeps to its contract over a whole run. -/
theorem kept_history {cursor : Cursor} (sound : cursor.Sound) (operations : List Operation) :
    (history cursor operations).map (·.operation) = operations ∧
      ∀ performed ∈ history cursor operations,
        performed.before.data = cursor.data ∧ performed.before.Sound ∧ performed.Kept := by
  induction operations generalizing cursor with
  | nil => exact ⟨rfl, by simp [history]⟩
  | cons operation operations ih =>
    -- Behind the first operation, the cursor is again inside the same bytes.
    obtain ⟨data, inside⟩ := Performed.stays sound operation
    obtain ⟨all, later⟩ := ih inside
    rw [history, List.map_cons, all]
    refine ⟨rfl, List.forall_mem_cons.mpr ⟨⟨rfl, sound, Performed.kept sound operation⟩, ?_⟩⟩
    intro performed member
    obtain ⟨same, between, kept⟩ := later performed member
    exact ⟨same.trans data, between, kept⟩

/--
From any place of any bytes, and whatever is asked of the cursor, each operation begins and ends
inside these bytes and keeps to the contract.

So a value is told from exactly the bytes that were passed, a failure is blamed on the place where
the operation began or on the one it sought, and only a number of variable length that never ends
moves the cursor although it fails.
-/
theorem history_keeps_contract {data : Bytes} {start : Nat} (inside : start ≤ data.size)
    (bounded : data.size < UInt64.size) (operations : List Operation) :
    at? data start = .ok ⟨data, start⟩ ∧
      (history ⟨data, start⟩ operations).map (·.operation) = operations ∧
      ∀ performed ∈ history ⟨data, start⟩ operations,
        performed.before.data = data ∧ performed.before.position ≤ data.size ∧
        performed.after.position ≤ data.size ∧ performed.Kept := by
  have sound : Sound ⟨data, start⟩ := ⟨inside, bounded⟩
  obtain ⟨all, each⟩ := kept_history sound operations
  refine ⟨if_pos inside, all, fun performed member => ?_⟩
  obtain ⟨same, sound, kept⟩ := each performed member
  have before := sound.inside
  have after := kept.inside
  rw [kept.data] at after
  rw [same] at before after
  exact ⟨same, before, after, kept⟩

/-- A byte in front, a text, and two bytes that ask for another one. -/
def ragged : Bytes := #[0x55, 0x61, 0, 0xFF, 0x80]

/-- A text, and then reads past the end of what is left, up to the greatest counts and places. -/
def probes : List Operation :=
  [.text, .word32, .bytes (2 ^ 64 - 1), .seek (2 ^ 64 - 1), .signedLeb, .peek, .byte, .seek 2,
    .address 3]

/-- The text is passed, the reads that fail leave the cursor behind it, and the number that never
ends moves it to the end. -/
theorem history_keeps_contract_ragged :
    1 ≤ ragged.size ∧ ragged.size < UInt64.size ∧ at? ragged 1 = .ok ⟨ragged, 1⟩ ∧
      (history ⟨ragged, 1⟩ probes).map (·.operation) = probes ∧
      (history ⟨ragged, 1⟩ probes).map (·.after.position) = [3, 3, 3, 3, 5, 5, 5, 2, 5] ∧
      ∀ performed ∈ history ⟨ragged, 1⟩ probes,
        performed.before.data = ragged ∧ performed.before.position ≤ ragged.size ∧
        performed.after.position ≤ ragged.size ∧ performed.Kept := by
  have inside : 1 ≤ ragged.size := by decide
  have bounded : ragged.size < UInt64.size := by decide
  have places : (history ⟨ragged, 1⟩ probes).map (·.after.position) =
      [3, 3, 3, 3, 5, 5, 5, 2, 5] := by decide +kernel
  obtain ⟨start, all, kept⟩ := history_keeps_contract inside bounded probes
  exact ⟨inside, bounded, start, all, places, kept⟩

end Cursor

end Footprint
