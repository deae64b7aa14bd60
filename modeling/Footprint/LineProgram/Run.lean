import Footprint.LineProgram.Machine

/-! Running the line program of a unit from its first opcode to the end of its body or to a
fault. -/

namespace Footprint

namespace Read

/-- A fetch that, where it succeeds, places the next instruction no earlier than where it began. -/
def Ahead (read : Read LineProgram.Fetched) : Prop :=
  ∀ before fetched after, read before = .ok fetched after → before.position ≤ fetched.next

/-- What follows a step lies ahead of where the step began. -/
theorem Keeps.ahead {α : Type} {read : Read α} {use : α → Read LineProgram.Fetched}
    (first : Keeps read) (second : ∀ value, Ahead (use value)) : Ahead (read >>= use) := by
  intro before fetched after done
  obtain ⟨value, middle, early, late⟩ := bind_eq_ok done
  exact Nat.le_trans (first _ _ _ early).forward (second _ _ _ _ late)

end Read

namespace LineProgram

/-- An instruction that ends where its last byte was read is followed from there. -/
theorem ahead_fetched (instruction : Instruction) : Read.Ahead (fetched instruction) := by
  intro before result after done
  rw [fetched, Read.bind_of_ok (Read.position_eq before)] at done
  cases done
  exact Nat.le_refl _

/-- Operands that are passed over make steps. -/
theorem keeps_skipOperands (count : Nat) : Read.Keeps (skipOperands count) := by
  induction count with
  | zero => exact Read.keeps_pure _
  | succ count ih => exact Read.moves_unsignedLeb.keeps.bind fun _ => ih

/-- The operands of a standard opcode make steps. -/
theorem keeps_standard (header : Header) (opcode : UInt8) :
    Read.Keeps (standard header opcode) := by
  unfold standard
  -- An opcode has no operand, one of its own kind, or as many as the header counts.
  split
  · exact Read.keeps_pure _
  · exact Read.moves_unsignedLeb.keeps.bind fun _ => Read.keeps_pure _
  · exact Read.moves_signedLeb.keeps.bind fun _ => Read.keeps_pure _
  · exact Read.moves_unsignedLeb.keeps.bind fun _ => Read.keeps_pure _
  · exact Read.moves_unsignedLeb.keeps.bind fun _ => Read.keeps_pure _
  · exact Read.keeps_pure _
  · exact Read.keeps_pure _
  · exact Read.keeps_pure _
  · exact Read.keeps_word16.bind fun _ => Read.keeps_pure _
  · exact (keeps_skipOperands _).bind fun _ => Read.keeps_pure _

/-- An extended instruction is followed from behind its length. -/
theorem ahead_extended : Read.Ahead extended := by
  refine Read.moves_unsignedLeb.keeps.ahead fun length => ?_
  split
  · exact ahead_fetched _
  · refine Read.moves_byte.keeps.ahead fun opcode => ?_
    intro before result after done
    obtain ⟨start, middle, placed, rest⟩ := Read.bind_eq_ok done
    rw [Read.position_eq] at placed
    cases placed
    -- The operand may be read or not, and the next place does not depend on it.
    obtain ⟨instruction, last, _, told⟩ := Read.bind_eq_ok rest
    cases told
    exact Nat.le_add_right _ _

/-- The next instruction lies past the opcode of the one before it. -/
theorem position_lt_next {header : Header} {before after : Cursor} {result : Fetched}
    (done : fetch header before = .ok result after) : before.position < result.next := by
  obtain ⟨opcode, middle, read, rest⟩ := Read.bind_eq_ok done
  -- The opcode itself takes a byte, and what follows it never moves back.
  have moved := (Read.moves_byte _ _ _ read).2
  have ahead : middle.position ≤ result.next := by
    split at rest
    · exact ahead_extended _ _ _ rest
    · split at rest
      · exact (keeps_standard header opcode).ahead (fun _ => ahead_fetched _) _ _ _ rest
      · exact ahead_fetched _ _ _ _ rest
  exact Nat.lt_of_lt_of_le moved ahead

/-- The greatest offset that can be named. -/
def greatestOffset : Nat := UInt64.size - 1

/-- Instructions are executed up to the end of the bytes or to a fault; one whose successor lies
past the end is still executed. -/
def Machine.run (machine : Machine) (header : Header) (cursor : Cursor) :
    Machine × Option Truncated :=
  if cursor.atEnd then (machine, none)
  else
    match _done : fetch header cursor with
    | .error fault _ => (machine, some fault)
    | .ok fetched _ =>
      let machine := machine.execute header fetched.instruction
      -- An operand may claim more bytes than the unit has.
      if fetched.next ≤ cursor.data.size then
        machine.run header { cursor with position := fetched.next }
      else (machine, some ⟨min fetched.next greatestOffset⟩)
termination_by cursor.data.size - cursor.position
decreasing_by
  have later := position_lt_next _done
  have within : ¬ cursor.data.size ≤ cursor.position := by
    simpa [Cursor.atEnd] using ‹¬ cursor.atEnd = true›
  omega

/-- A run executes the next instruction and goes on where that one says, if that is inside. -/
theorem Machine.run_eq (machine : Machine) (header : Header) (cursor : Cursor) :
    machine.run header cursor =
      if cursor.atEnd then (machine, none)
      else match fetch header cursor with
        | .error fault _ => (machine, some fault)
        | .ok fetched _ =>
          if fetched.next ≤ cursor.data.size then
            (machine.execute header fetched.instruction).run header
              { cursor with position := fetched.next }
          else
            (machine.execute header fetched.instruction, some ⟨min fetched.next greatestOffset⟩) := by
  rw [run]
  split
  · rfl
  · split <;> rename_i done <;> rw [done]

/-- A unit whose header could be read: its rows in the order of emission, and the fault that cut
its program short. -/
structure Decoded where
  header : Header
  rows : Array Row
  fault? : Option Truncated
deriving DecidableEq, Repr

/-- What the body of a unit holds. -/
inductive Outcome where
  | decoded (unit : Decoded)
  | skipped (reason : SkipReason)
  /-- The header itself is cut short. -/
  | headless (fault : Truncated)
deriving DecidableEq, Repr

/-- The rows of a unit in the order of emission. -/
def Outcome.rows : Outcome → Array Row
  | .decoded unit => unit.rows
  | .skipped _ => #[]
  | .headless _ => #[]

/-- The outcome of a unit whose body starts at the cursor and ends with its bytes. -/
def decodeUnit (format : Format) (body : Cursor) : Outcome :=
  match Header.read format body with
  | .error fault _ => .headless fault
  | .ok (.error reason) _ => .skipped reason
  | .ok (.ok header) _ =>
    -- The rows emitted before a fault are kept.
    let (machine, fault?) := (Machine.initial header).run header ⟨body.data, header.programStart⟩
    .decoded ⟨header, machine.rows, fault?⟩

end LineProgram

end Footprint
