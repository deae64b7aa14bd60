import Footprint.Event
import Footprint.LineProgram.Run

/-! The line table of an image: the rows of all its units, by address. -/

namespace Footprint

open LineProgram

/-- Rows in ascending order of their addresses, of which no two are equal. -/
structure LineTable where
  rows : List Row
deriving DecidableEq, Repr

namespace LineTable

/-- A table without rows. -/
def empty : LineTable := ⟨[]⟩

/-- The last row of each run of rows with one address. -/
def lastOfRuns : List Row → List Row
  | first :: second :: rest =>
    -- A row is dropped where the next one stands at its address.
    if first.address = second.address then lastOfRuns (second :: rest)
    else first :: lastOfRuns (second :: rest)
  | rows => rows

/-- The table of rows that were emitted one after the other, in which a later row replaces an
earlier one at its address. -/
def ofHistory (history : List Row) : LineTable :=
  -- The sort keeps rows with one address in the order of their emission.
  ⟨lastOfRuns (history.mergeSort fun first second => first.address ≤ second.address)⟩

/-- The row with the greatest address that is not above the given one. -/
def lookup? (table : LineTable) (address : UInt64) : Option Row :=
  -- The rows ascend, so that those not above the address come first.
  (table.rows.takeWhile (·.address ≤ address)).getLast?

/-- The number of rows. -/
def size (table : LineTable) : Nat := table.rows.length

/-- Whether there are no rows. -/
def isEmpty (table : LineTable) : Bool := table.rows.isEmpty

end LineTable

namespace LineProgram

/-- A unit of a line table and what became of it. -/
structure LineUnit where
  /-- The place of the unit in its section. -/
  offset : Nat
  outcome : Outcome
deriving DecidableEq, Repr

/-- Why units are no longer looked for before the end of a section. -/
inductive Stop where
  | unusable (offset : Nat)
  | trailing (offset : Nat) (fault : Truncated)
deriving DecidableEq, Repr

/-- The length at the start of a unit, and the width that the unit's other lengths have. -/
def unitLength : Read (Format × Nat) := do
  let short ← Read.word32
  -- The greatest length of four bytes announces one of eight.
  if short = 0xFFFFFFFF then
    let long ← Read.word64
    return (.wide, long.toNat)
  else return (.narrow, short.toNat)

/-- The length of a unit makes a step. -/
theorem keeps_unitLength : Read.Keeps unitLength := by
  refine ((Read.keeps_unsigned 4).bind fun _ => Read.keeps_pure _).bind fun short => ?_
  split
  · exact ((Read.keeps_unsigned 8).bind fun _ => Read.keeps_pure _).bind fun _ => Read.keeps_pure _
  · exact Read.keeps_pure _

/-- The units of a section from an offset on, and why they end before it does. -/
def unitsFrom (data : Bytes) (offset : Nat) : List LineUnit × Option Stop :=
  if data.size ≤ offset then ([], none)
  else
    match _done : unitLength ⟨data, offset⟩ with
    | .error fault _ => ([], some (.trailing offset fault))
    | .ok (format, length) body =>
      -- Without a usable length, nothing tells where the next unit starts.
      if _usable : 0 < length ∧ body.position + length ≤ data.size then
        let stop := body.position + length
        -- The bytes behind the unit are out of reach of its decoding.
        let unit : LineUnit := ⟨offset, decodeUnit format ⟨data.slice 0 stop, body.position⟩⟩
        let (units, halt?) := unitsFrom data stop
        (unit :: units, halt?)
      else ([], some (.unusable offset))
termination_by data.size - offset
decreasing_by
  have forward := (keeps_unitLength _ _ _ _done).forward
  simp only at forward
  omega

/-- A usable length gives a unit and the units behind it. -/
theorem unitsFrom_eq (data : Bytes) (offset : Nat) :
    unitsFrom data offset =
      if data.size ≤ offset then ([], none)
      else match unitLength ⟨data, offset⟩ with
        | .error fault _ => ([], some (.trailing offset fault))
        | .ok (format, length) body =>
          if 0 < length ∧ body.position + length ≤ data.size then
            let stop := body.position + length
            (⟨offset, decodeUnit format ⟨data.slice 0 stop, body.position⟩⟩ ::
              (unitsFrom data stop).1, (unitsFrom data stop).2)
          else ([], some (.unusable offset)) := by
  rw [unitsFrom]
  split
  · rfl
  · split
    · rename_i done
      rw [done]
    · rename_i format length body done
      rw [done]
      by_cases usable : 0 < length ∧ body.position + length ≤ data.size
      · rw [dif_pos usable]
        dsimp only
        rw [if_pos usable]
      · rw [dif_neg usable]
        dsimp only
        rw [if_neg usable]

/-- Whether a unit was read to its end. -/
def LineUnit.isComplete (unit : LineUnit) : Bool :=
  match unit.outcome with
  | .decoded decoded => decoded.fault?.isNone
  | _ => false

/-- What is reported of a unit. -/
def LineUnit.events (unit : LineUnit) : List Event :=
  match unit.outcome with
  | .decoded decoded =>
    let program := .lineProgram unit.offset decoded.header decoded.rows.size
    match decoded.fault? with
    | none => [program]
    | some fault => [program, .truncatedUnit unit.offset fault]
  | .skipped reason => [.skippedUnit unit.offset reason]
  | .headless fault => [.truncatedUnit unit.offset fault]

/-- What is reported of units that end early. -/
def Stop.event : Stop → Event
  | .unusable offset => .unusableUnit offset
  | .trailing offset fault => .trailingBytes offset fault

end LineProgram

namespace LineTable

/-- The rows of units in the order of their emission. -/
def history (units : List LineUnit) : List Row := units.flatMap (·.outcome.rows.toList)

/-- The rows that the units of a section emit, one after the other. -/
def emitted (data : Bytes) : List Row := history (unitsFrom data 0).1

/-- The table of a section, and what is reported of its units. -/
def parse (data : Bytes) : LineTable × List Event :=
  let (units, stop?) := unitsFrom data 0
  let table := ofHistory (history units)
  let complete := units.countP LineUnit.isComplete
  let summary := .decodedLines complete (units.length - complete) table.size
  (table, units.flatMap LineUnit.events ++ (stop?.map Stop.event).toList ++ [summary])

end LineTable

end Footprint
