import Footprint.Cursor.Progress

/-! Reads on a machine that watches its slices, indices and arithmetic, and stops at the first one
that is out of range. -/

namespace Footprint

/-- What stops a machine in the middle of a run. -/
inductive Trap where
  /-- The ends of a slice are out of order or past the end. -/
  | slice (start stop size : Nat)
  | index (place size : Nat)
  /-- Bytes are copied to where another number of them is expected. -/
  | length (expected found : Nat)
  /-- A number needs more than eight bytes. -/
  | overflow (number : Nat)
  /-- A signed number needs more than eight bytes. -/
  | signedOverflow (number : Int)
  /-- More is taken away than there is. -/
  | underflow (whole part : Nat)
  | divisionByZero
  /-- A word is shifted by its width or more. -/
  | shift (count : Nat)
  /-- A loop is not over after as many rounds as there are bytes ahead of it, and one more. -/
  | rounds
  /-- A round of a loop ends no later than where it started, or past the end. -/
  | standstill (start stop size : Nat)
deriving DecidableEq, Repr

/-- A run of a machine, which ends in an outcome unless a trap stops it. -/
abbrev Run (ε α : Type) := ExceptT ε (Except Trap) α

namespace Run

variable {α β ε ε' : Type}

/-- A run that a trap stops. -/
def trap (cause : Trap) : Run ε α := ExceptT.mk (.error cause)

/-- The bytes between two places. -/
def slice (data : Bytes) (start stop : Nat) : Run ε Bytes :=
  if start ≤ stop ∧ stop ≤ data.size then return data.slice start stop
  else trap (.slice start stop data.size)

/-- The value at a place. -/
def index (values : Array α) (place : Nat) : Run ε α :=
  match values[place]? with
  | some value => return value
  | none => trap (.index place values.size)

/-- A number that is known to fit eight bytes. -/
def counted (number : Nat) : Run ε Nat :=
  if number < UInt64.size then return number else trap (.overflow number)

/-- A signed number that is known to fit eight bytes. -/
def signed (number : Int) : Run ε Int :=
  if Int64.minValue.toInt ≤ number ∧ number ≤ Int64.maxValue.toInt then return number
  else trap (.signedOverflow number)

/-- What is left of a number when a part of it is taken away. -/
def difference (whole part : Nat) : Run ε Nat :=
  if part ≤ whole then return whole - part else trap (.underflow whole part)

/-- How often a number goes into another one, and what is left of that. -/
def divided (number divisor : Nat) : Run ε (Nat × Nat) :=
  if divisor = 0 then trap .divisionByZero else return (number / divisor, number % divisor)

/-- The bits of a word moved up. -/
def shifted (word : UInt64) (count : Nat) : Run ε UInt64 :=
  if count < 64 then return word <<< count.toUInt64 else trap (.shift count)

/-- The place where a round of a loop ends, which lies behind its start and inside the bytes. -/
def onward (start stop size : Nat) : Run ε Nat :=
  if start < stop ∧ stop ≤ size then return stop else trap (.standstill start stop size)

/-- What a run ends in, fault or not, as the value of a run that goes on. -/
def attempt (run : Run ε α) : Run ε' (Except ε α) := ExceptT.mk (run.run.map .ok)

/-- A number, if it fits eight bytes. -/
def fitting? (number : Nat) : Option Nat := if number < UInt64.size then some number else none

/-- A run with another fault. -/
def blaming (run : Run ε α) (change : ε → ε') : Run ε' α := ExceptT.adapt change run

/-- A run that no trap stops and that ends in this outcome. -/
def Yields (run : Run ε α) (outcome : Except ε α) : Prop := run.run = .ok outcome

/-- A value that is already known needs no run. -/
theorem yields_pure (value : α) : (pure value : Run ε α).Yields (pure value) := rfl

/-- A fault is the outcome of its own run. -/
theorem yields_throw (fault : ε) : (throw fault : Run ε α).Yields (throw fault) := rfl

/-- Two runs in a row end as the two outcomes do. -/
theorem Yields.bind {run : Run ε α} {use : α → Run ε β} {first : Except ε α}
    {second : α → Except ε β} (early : run.Yields first)
    (late : ∀ value, first = .ok value → (use value).Yields (second value)) :
    (run >>= use).Yields (first >>= second) := by
  rw [Yields, ExceptT.run] at early
  subst early
  cases first with
  | error fault => rfl
  | ok value => exact late value rfl

/-- A run behind a check ends as the outcome behind it does. -/
theorem Yields.guarded {bad : Prop} [Decidable bad] {fault : ε} {rest : Unit → Run ε α}
    {outcome : Unit → Except ε α} (late : ¬ bad → (rest ()).Yields (outcome ())) :
    Yields (if bad then (throw fault : Run ε Unit) >>= rest else rest ())
      (if bad then (throw fault : Except ε Unit) >>= outcome else outcome ()) := by
  by_cases stops : bad
  · rw [if_pos stops, if_pos stops]
    rfl
  · rw [if_neg stops, if_neg stops]
    exact late stops

/-- Changing the fault of a run changes that of its outcome. -/
theorem Yields.blaming {run : Run ε α} {outcome : Except ε α} (yields : run.Yields outcome)
    (change : ε → ε') : (run.blaming change).Yields (outcome.mapError change) := by
  rw [Yields, ExceptT.run] at yields
  subst yields
  cases outcome <;> rfl

/-- Runs over a list end as the outcomes over it do. -/
theorem Yields.mapM {use : α → Run ε β} {outcome : α → Except ε β} (values : List α)
    (each : ∀ value ∈ values, (use value).Yields (outcome value)) :
    (values.mapM use).Yields (values.mapM outcome) := by
  induction values with
  | nil => exact yields_pure []
  | cons value rest ih =>
    obtain ⟨first, others⟩ := List.forall_mem_cons.mp each
    rw [List.mapM_cons, List.mapM_cons]
    exact first.bind fun _ _ => (ih others).bind fun _ _ => yields_pure _

/-- Runs over a list that all end in values end in the list of these. -/
theorem mapM_eq_pure {use : α → Run ε β} {result : α → β} (values : List α)
    (each : ∀ value ∈ values, use value = pure (result value)) :
    values.mapM use = pure (values.map result) := by
  induction values with
  | nil => rfl
  | cons value rest ih =>
    obtain ⟨first, others⟩ := List.forall_mem_cons.mp each
    rw [List.mapM_cons, first, ih others, pure_bind, pure_bind, List.map_cons]

/-- A slice between two places of the bytes, in their order, is watched in vain. -/
theorem slice_eq_pure {data : Bytes} {start stop : Nat} (ordered : start ≤ stop)
    (inside : stop ≤ data.size) :
    slice data start stop = (pure (data.slice start stop) : Run ε Bytes) :=
  if_pos ⟨ordered, inside⟩

/-- A place that has a value is watched in vain. -/
theorem index_eq_pure {values : Array α} {place : Nat} {value : α}
    (found : values[place]? = some value) : index values place = (pure value : Run ε α) := by
  simp only [index, found]

/-- A number that fits eight bytes is watched in vain. -/
theorem counted_eq_pure {number : Nat} (fits : number < UInt64.size) :
    counted number = (pure number : Run ε Nat) :=
  if_pos fits

/-- A signed number that fits eight bytes is watched in vain. -/
theorem signed_eq_pure {number : Int} (least : Int64.minValue.toInt ≤ number)
    (most : number ≤ Int64.maxValue.toInt) :
    signed number = (pure number : Run ε Int) :=
  if_pos ⟨least, most⟩

/-- A part that is no more than the whole is taken away in vain of the watch. -/
theorem difference_eq_pure {whole part : Nat} (enough : part ≤ whole) :
    difference whole part = (pure (whole - part) : Run ε Nat) :=
  if_pos enough

/-- A division by another number than zero is watched in vain. -/
theorem divided_eq_pure {divisor : Nat} (nonzero : divisor ≠ 0) (number : Nat) :
    divided number divisor =
      (pure (number / divisor, number % divisor) : Run ε (Nat × Nat)) :=
  if_neg nonzero

/-- A shift by less than the width of a word is watched in vain. -/
theorem shifted_eq_pure {count : Nat} (inside : count < 64) (word : UInt64) :
    shifted word count = (pure (word <<< count.toUInt64) : Run ε UInt64) :=
  if_pos inside

/-- A round of a loop that goes forward inside the bytes is watched in vain. -/
theorem onward_eq_pure {start stop size : Nat} (forward : start < stop) (inside : stop ≤ size) :
    onward start stop size = (pure stop : Run ε Nat) :=
  if_pos ⟨forward, inside⟩

/-- A place that is sought inside bytes whose number fits eight bytes is found as if any number
fitted. -/
theorem filter_fitting? {size : Nat} (bounded : size < UInt64.size) (place : Nat) :
    (fitting? place).filter (· ≤ size) = if place ≤ size then some place else none := by
  rw [fitting?]
  by_cases inside : place ≤ size
  · have fits : place < UInt64.size := Nat.lt_of_le_of_lt inside bounded
    simp [fits, inside]
  · -- Whether the place fits eight bytes or not, it is past the end.
    split <;> simp [Option.filter, inside]

end Run

/-- A cursor inside bytes whose number fits eight bytes. -/
structure Cursor.Sound (cursor : Cursor) : Prop where
  inside : cursor.position ≤ cursor.data.size
  bounded : cursor.data.size < UInt64.size

/-- A read on a machine, which moves a cursor and yields a value. -/
abbrev WatchedRead := StateT Cursor (Run Truncated)

namespace WatchedRead

variable {α β : Type}

/-- A read that fails here blames the place of the cursor. -/
def bytes (count : Nat) : WatchedRead Bytes := fun cursor =>
  -- An end that does not fit eight bytes is past the end of any file.
  match (Run.fitting? (cursor.position + count)).filter (· ≤ cursor.data.size) with
  | none => throw ⟨cursor.position⟩
  | some stop => do
    let taken ← Run.slice cursor.data cursor.position stop
    return (taken, { cursor with position := stop })

/-- Bytes that are copied to where exactly as many are expected. -/
def array (count : Nat) : WatchedRead Bytes := do
  let taken ← bytes count
  if taken.size = count then return taken else StateT.lift (Run.trap (.length count taken.size))

/-- Moves to a place in the bytes. -/
def seek (position : Nat) : WatchedRead Unit := fun cursor =>
  if position ≤ cursor.data.size then return ((), { cursor with position })
  else throw ⟨position⟩

/-- One byte. -/
def byte : WatchedRead UInt8 := do StateT.lift (Run.index (← array 1) 0)

/-- A number of a whole number of bytes. -/
def unsigned (width : Nat) : WatchedRead Nat :=
  return Bytes.littleEndian (← array width).toList

/-- Two bytes. -/
def word16 : WatchedRead UInt16 := return .ofNat (← unsigned 2)

/-- Four bytes. -/
def word32 : WatchedRead UInt32 := return .ofNat (← unsigned 4)

/-- Eight bytes. -/
def word64 : WatchedRead UInt64 := return .ofNat (← unsigned 8)

/-- The value of a read from a cursor, whose fault is blamed in its own way. -/
def value {ε : Type} (read : WatchedRead α) (cursor : Cursor) (blame : Truncated → ε) : Run ε α :=
  Run.blaming (do return (← read cursor).1) blame

/-- What a read ends in, where the cursor of one that fails does not matter. -/
def outcome : EStateM.Result Truncated Cursor α → Except Truncated (α × Cursor)
  | .ok value after => .ok (value, after)
  | .error fault _ => .error fault

/-- A value that a read ends in is what it yields. -/
theorem ok_of_outcome {result : EStateM.Result Truncated Cursor α} {value : α} {after : Cursor}
    (ends : outcome result = .ok (value, after)) : result = .ok value after := by
  cases result <;> cases ends
  rfl

/-- The value that a read ends in, or the blame for its fault. -/
def blamed {ε : Type} (blame : Truncated → ε) : EStateM.Result Truncated Cursor α → Except ε α
  | .ok value _ => .ok value
  | .error fault _ => .error (blame fault)

/-- A read on a machine that no trap stops, that does what another one does, and that leaves the
cursor inside the bytes. -/
structure Follows (watched : WatchedRead α) (read : Read α) : Prop where
  same : ∀ cursor : Cursor, cursor.Sound → Run.Yields (watched cursor) (outcome (read cursor))
  stays : ∀ (cursor : Cursor) value after, cursor.Sound → read cursor = .ok value after →
    after.Sound

/-- A value that is already known follows itself. -/
theorem follows_pure (value : α) : (pure value : WatchedRead α).Follows (pure value) where
  same := fun _ _ => rfl
  stays := by
    intro cursor result after sound done
    cases done
    exact sound

/-- A read passes the bytes that the one it follows passes. -/
theorem Follows.passes {watched : WatchedRead α} {read : Read α} (follows : watched.Follows read)
    {cursor after : Cursor} {value : α} (sound : cursor.Sound)
    (done : read cursor = .ok value after) : watched cursor = pure (value, after) := by
  have same := follows.same cursor sound
  rwa [done] at same

/-- A read fails where the one it follows fails, with the same fault. -/
theorem Follows.fails {watched : WatchedRead α} {read : Read α} (follows : watched.Follows read)
    {cursor after : Cursor} {fault : Truncated} (sound : cursor.Sound)
    (failed : read cursor = .error fault after) : watched cursor = throw fault := by
  have same := follows.same cursor sound
  rwa [failed] at same

/-- An attempt at a read passes the bytes that the one it follows passes. -/
theorem Follows.attempt_of_ok {ε : Type} {watched : WatchedRead α} {read : Read α}
    (follows : watched.Follows read) {cursor after : Cursor} {value : α} (sound : cursor.Sound)
    (done : read cursor = .ok value after) :
    (watched cursor).attempt = (pure (.ok (value, after)) : Run ε _) := by
  rw [follows.passes sound done]
  rfl

/-- An attempt at a read ends in the fault of the one it follows. -/
theorem Follows.attempt_of_error {ε : Type} {watched : WatchedRead α} {read : Read α}
    (follows : watched.Follows read) {cursor after : Cursor} {fault : Truncated}
    (sound : cursor.Sound) (failed : read cursor = .error fault after) :
    (watched cursor).attempt = (pure (.error fault) : Run ε _) := by
  rw [follows.fails sound failed]
  rfl

/-- The value of a read is that of the one it follows, or is refused with the same blame. -/
theorem Follows.value {ε : Type} {watched : WatchedRead α} {read : Read α}
    (follows : watched.Follows read) {cursor : Cursor} (sound : cursor.Sound)
    (blame : Truncated → ε) : (watched.value cursor blame).Yields (blamed blame (read cursor)) := by
  rw [WatchedRead.value]
  cases done : read cursor with
  | error fault after =>
    rw [follows.fails sound done]
    rfl
  | ok value after =>
    rw [follows.passes sound done]
    rfl

/-- Two reads in a row follow two others if the second one does for each value of the first. -/
theorem Follows.bind_of {watched : WatchedRead α} {use : α → WatchedRead β} {read : Read α}
    {next : α → Read β} (early : watched.Follows read)
    (late : ∀ cursor value after, read cursor = .ok value after →
      (use value).Follows (next value)) :
    (watched >>= use).Follows (read >>= next) where
  same := by
    intro cursor sound
    change Run.Yields (watched cursor >>= fun (value, after) => use value after) _
    cases done : read cursor with
    | error fault after =>
      -- The fault of the first read is that of both.
      have failed : (read >>= next) cursor = .error fault after := by
        simp only [Bind.bind, EStateM.bind, done]
      rw [failed, early.fails sound done]
      exact Run.yields_throw fault
    | ok value after =>
      rw [Read.bind_of_ok done, early.passes sound done, pure_bind]
      exact (late cursor value after done).same after (early.stays cursor value after sound done)
  stays := by
    intro cursor result after sound done
    obtain ⟨value, middle, first, second⟩ := Read.bind_eq_ok done
    have between := early.stays cursor value middle sound first
    exact (late cursor value middle first).stays middle result after between second

/-- Two reads in a row follow two others if each one follows its own. -/
theorem Follows.bind {watched : WatchedRead α} {use : α → WatchedRead β} {read : Read α}
    {next : α → Read β} (early : watched.Follows read)
    (late : ∀ value, (use value).Follows (next value)) :
    (watched >>= use).Follows (read >>= next) :=
  early.bind_of fun _ value _ _ => late value

/-- Changing the value of a read changes that of the one that it follows. -/
theorem Follows.map {watched : WatchedRead α} {read : Read α} (follows : watched.Follows read)
    (change : α → β) :
    (watched >>= fun value => pure (change value)).Follows
      (read >>= fun value => pure (change value)) :=
  follows.bind fun value => follows_pure (change value)

/-- A run of bytes is taken without a trap. -/
theorem follows_bytes (count : Nat) : (bytes count).Follows (Read.bytes count) where
  same := by
    intro cursor sound
    obtain ⟨inside, bounded⟩ := sound
    rw [bytes, Read.bytes, Run.filter_fitting? bounded]
    by_cases room : cursor.position + count ≤ cursor.data.size
    · simp only [if_pos room]
      rw [Run.slice_eq_pure (Nat.le_add_right _ _) room]
      exact Run.yields_pure _
    · rw [if_neg room, if_neg room]
      exact Run.yields_throw _
  stays := by
    intro cursor value after sound done
    obtain ⟨room, rfl, _⟩ := Read.bytes_eq_ok done
    exact ⟨room, sound.bounded⟩

/-- As many bytes are copied as were taken. -/
theorem follows_array (count : Nat) : (array count).Follows (Read.bytes count) := by
  have copied : (array count).Follows (Read.bytes count >>= pure) := by
    refine (follows_bytes count).bind_of fun cursor value after done => ?_
    obtain ⟨room, _, rfl⟩ := Read.bytes_eq_ok done
    have whole : (cursor.data.slice cursor.position (cursor.position + count)).size = count := by
      rw [Bytes.slice, Array.size_extract]
      omega
    simp only [whole, if_true]
    exact follows_pure _
  rwa [bind_pure] at copied

/-- A place that the cursor is moved to lies inside the bytes. -/
theorem follows_seek (position : Nat) : (seek position).Follows (Read.seek position) where
  same := by
    intro cursor sound
    rw [seek, Read.seek]
    split
    · exact Run.yields_pure _
    · exact Run.yields_throw _
  stays := by
    intro cursor value after sound done
    simp only [Read.seek] at done
    split at done
    · cases done
      exact ⟨by assumption, sound.bounded⟩
    · contradiction

/-- The byte that is copied is the first of one. -/
theorem follows_byte : byte.Follows Read.byte where
  same := by
    intro cursor sound
    change Run.Yields (array 1 cursor >>= fun (taken, after) =>
      (StateT.lift (Run.index taken 0) : WatchedRead UInt8) after) _
    by_cases room : cursor.position + 1 ≤ cursor.data.size
    · have copied : Read.bytes 1 cursor = .ok _ _ := if_pos room
      have first : (cursor.data.slice cursor.position (cursor.position + 1))[0]? =
          some cursor.data[cursor.position] := by
        simp [Bytes.slice, room]
      have here : cursor.peek? = some cursor.data[cursor.position] :=
        Array.getElem?_eq_getElem room
      rw [(follows_array 1).passes sound copied, pure_bind]
      simp only [Read.byte, here, Run.index_eq_pure first]
      exact Run.yields_pure _
    · have lacking : Read.bytes 1 cursor = .error ⟨cursor.position⟩ cursor := if_neg room
      have past : cursor.peek? = none := Array.getElem?_eq_none (Nat.le_of_not_lt room)
      rw [(follows_array 1).fails sound lacking]
      simp only [Read.byte, past]
      exact Run.yields_throw _
  stays := by
    intro cursor value after sound done
    have step := (Read.moves_byte cursor value after done).1
    exact ⟨step.inside sound.inside, step.data ▸ sound.bounded⟩

/-- A number is copied as it is. -/
theorem follows_unsigned (width : Nat) : (unsigned width).Follows (Read.unsigned width) :=
  (follows_array width).map fun bytes => Bytes.littleEndian bytes.toList

/-- A number of two bytes is copied as it is. -/
theorem follows_word16 : word16.Follows Read.word16 := (follows_unsigned 2).map UInt16.ofNat

/-- A number of four bytes is copied as it is. -/
theorem follows_word32 : word32.Follows Read.word32 := (follows_unsigned 4).map UInt32.ofNat

/-- A number of eight bytes is copied as it is. -/
theorem follows_word64 : word64.Follows Read.word64 := (follows_unsigned 8).map UInt64.ofNat

end WatchedRead

end Footprint
