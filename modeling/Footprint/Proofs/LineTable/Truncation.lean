import Footprint.Proofs.LineProgram.Extension
import Footprint.Proofs.LineTable.Sequences

/-! A unit that is cut short loses the last of its rows, and no others. -/

namespace Footprint

namespace LineProgram

/-- The bytes of a unit: its length, as long as its format can spell it, and its body. -/
def Format.unitBytes (format : Format) (body : List UInt8) : List UInt8 :=
  format.lengthBytes body.length ++ body

/-- An empty body has no header. -/
theorem rows_decodeUnit_empty (format : Format) : (decodeUnit format (.ofBytes #[])).rows = #[] := by
  cases format <;> rfl

end LineProgram

namespace LineTable

open LineProgram

/-- A unit without a body emits nothing, since its length is not usable. -/
theorem emitted_empty_unit (format : Format) : emitted (format.unitBytes []).toArray = [] := by
  have zero : format.Spells 0 := by
    cases format <;> decide
  have told := reads_unitLength zero [] []
  have more : ¬ (format.unitBytes []).toArray.size ≤ 0 := by
    cases format <;> decide
  -- The length reads back as zero, which halts the search for units.
  have start : Cursor.between [] (format.lengthBytes 0 ++ []) = ⟨(format.unitBytes []).toArray, 0⟩ :=
    rfl
  rw [start] at told
  rw [emitted, unitsFrom_eq, if_neg more, told]
  rfl

/-- A unit emits the rows of its body, wherever the body stands. -/
theorem emitted_unitBytes {format : Format} {body : List UInt8}
    (short : format.Spells body.length) :
    emitted (format.unitBytes body).toArray =
      (decodeUnit format (.ofBytes body.toArray)).rows.toList := by
  by_cases empty : body = []
  · rw [empty, emitted_empty_unit, rows_decodeUnit_empty]
  · -- The body stands behind its length, and with more bytes in front it has the same rows.
    have alone := rows_unitBehind ⟨format, body, empty, short⟩ []
    have moved : (decodeUnit format
        (Cursor.shift (format.lengthBytes body.length).toArray (.ofBytes body.toArray))).rows = _ :=
      rows_decodeUnit_shift format _
    have place : Cursor.shift (format.lengthBytes body.length).toArray (.ofBytes body.toArray) =
        .between ([] ++ format.lengthBytes body.length) body := by
      simp [Cursor.shift, Cursor.between, Cursor.ofBytes]
    rw [place] at moved
    rw [← moved]
    exact alone.symm

/-- A unit that is cut anywhere, in its header or in its program, and told its new length emits the
first of the rows that it emits as a whole, each of them with all its fields. -/
theorem emitted_cut {format : Format} {body : List UInt8} (short : format.Spells body.length)
    (count : Nat) :
    emitted (format.unitBytes (body.take count)).toArray <+:
      emitted (format.unitBytes body).toArray := by
  have shorter : format.Spells (body.take count).length :=
    short.mono (List.length_take_le' count body)
  -- What was cut off are more bytes behind the body that is left.
  have whole : (Cursor.ofBytes (body.take count).toArray).extend (body.drop count).toArray =
      .ofBytes body.toArray := by
    simp [Cursor.extend, Cursor.ofBytes]
  rw [emitted_unitBytes shorter, emitted_unitBytes short, ← whole]
  exact prefix_decodeUnit_extend format _ _

/-- The lower block without the instructions behind its first row. -/
def startedBlock : Assembly where
  toDraft := { (blockUnit false).assembly.toDraft with program := (blockProgram false).take 2 }
  supported := by decide
  divisible := by decide
  opcodes := by decide
  fits := by decide
  short := by decide +kernel

/-- Cut behind its first row, a block emits that row and not the one that ends it. -/
theorem emitted_cut_behind_row :
    let body := (blockUnit false).assembly.body
    Format.narrow.Spells body.length ∧
      emitted (Format.narrow.unitBytes (body.take (body.length - 5))).toArray <+:
        emitted (Format.narrow.unitBytes body).toArray ∧
      emitted (Format.narrow.unitBytes (body.take (body.length - 5))).toArray =
        (block false).rows ∧
      emitted (Format.narrow.unitBytes body).toArray = (block false).rows ++ [(block false).last] := by
  intro body
  have short : Format.narrow.Spells body.length := (blockUnit false).assembly.short
  have started : body.take (body.length - 5) = startedBlock.body := by decide +kernel
  refine ⟨short, emitted_cut short (body.length - 5), ?_, ?_⟩
  · rw [started]
    refine (emitted_assembly startedBlock).trans ?_
    decide +kernel
  · refine (emitted_assembly (blockUnit false).assembly).trans ?_
    decide +kernel

end LineTable

end Footprint
