import Footprint.Proofs.Cursor.Reads
import Footprint.Proofs.LineProgram.Translation
import Footprint.Proofs.LineTable.Rows

/-! The units of a section do not see one another: each adds the rows that it emits alone. -/

namespace Footprint

namespace LineProgram

/-- The length of a unit reads the same further on. -/
theorem translates_unitLength {front : Bytes} : Translates front id unitLength unitLength := by
  refine Read.translates_word32.bind fun short => ?_
  dsimp only [id]
  -- The greatest number of four bytes is followed by the length itself.
  split
  · exact Read.translates_word64.bind fun long => translates_pure id _
  · exact translates_pure id _

/-- Whether a format can spell a length; the greatest length of four bytes announces the other
format. -/
def Format.Spells : Format → Nat → Prop
  | .narrow, length => length < 0xFFFFFFFF
  | .wide, length => length < 2 ^ 64

instance (format : Format) (length : Nat) : Decidable (format.Spells length) :=
  match format with
  | .narrow => inferInstanceAs (Decidable (length < 0xFFFFFFFF))
  | .wide => inferInstanceAs (Decidable (length < 2 ^ 64))

/-- The bytes of a unit's length. -/
def Format.lengthBytes : Format → Nat → List UInt8
  | .narrow, length => Bytes.digits 4 length
  | .wide, length => Bytes.digits 4 0xFFFFFFFF ++ Bytes.digits 8 length

/-- The length of a unit reads back. -/
theorem reads_unitLength {format : Format} {length : Nat} (short : format.Spells length) :
    Reads unitLength (format.lengthBytes length) (format, length) := by
  cases format with
  | narrow =>
    have fits : length < 2 ^ 32 := by
      simp only [Format.Spells] at short
      omega
    have number : (UInt32.ofNat length).toNat = length := by
      rw [UInt32.toNat_ofNat', Nat.mod_eq_of_lt fits]
    -- The length is not the number that announces eight bytes.
    have plain : UInt32.ofNat length ≠ 0xFFFFFFFF := by
      intro same
      have same := congrArg UInt32.toNat same
      rw [number] at same
      exact Nat.ne_of_lt short same
    have word := reads_word32 (.ofNat length)
    rw [number] at word
    have joined : Reads unitLength (Bytes.digits 4 length ++ []) (.narrow, length) := by
      refine word.bind ?_
      rw [if_neg plain, number]
      exact reads_pure _
    rwa [List.append_nil] at joined
  | wide =>
    have number : (UInt64.ofNat length).toNat = length := by
      rw [UInt64.toNat_ofNat', Nat.mod_eq_of_lt short]
    have word := (reads_word64 (.ofNat length)).map fun long => (Format.wide, long.toNat)
    rw [number] at word
    -- The greatest number of four bytes leads to the number behind it.
    refine (reads_word32 0xFFFFFFFF).bind ?_
    rw [if_pos rfl]
    exact word

/-- A unit as it stands in a section: its body, and a format that can spell the length of it. -/
structure Frame where
  format : Format
  body : List UInt8
  nonempty : body ≠ []
  short : format.Spells body.length

namespace Frame

/-- The bytes of a unit. -/
def bytes (frame : Frame) : List UInt8 :=
  frame.format.lengthBytes frame.body.length ++ frame.body

/-- What becomes of a unit behind some bytes. -/
def unitBehind (frame : Frame) (behind : List UInt8) : LineUnit :=
  ⟨behind.length, decodeUnit frame.format
    (.between (behind ++ frame.format.lengthBytes frame.body.length) frame.body)⟩

/-- The units of frames behind some bytes. -/
def unitsBehind (behind : List UInt8) : List Frame → List LineUnit
  | [] => []
  | frame :: frames => frame.unitBehind behind :: unitsBehind (behind ++ frame.bytes) frames

end Frame

/-- A usable length gives the unit it tells, and the units behind that one. -/
theorem unitsFrom_of_usable {data : Bytes} {offset length : Nat} {format : Format} {body : Cursor}
    (more : offset < data.size)
    (told : unitLength ⟨data, offset⟩ = .ok (format, length) body)
    (usable : 0 < length ∧ body.position + length ≤ data.size) :
    unitsFrom data offset =
      (⟨offset, decodeUnit format ⟨data.slice 0 (body.position + length), body.position⟩⟩ ::
          (unitsFrom data (body.position + length)).1,
        (unitsFrom data (body.position + length)).2) := by
  -- Neither the end nor a faulty length halts the search here.
  rw [unitsFrom_eq, if_neg (Nat.not_le_of_lt more), told]
  dsimp only
  rw [if_pos usable]

/-- A frame is found whole, and the search goes on behind it. -/
theorem unitsFrom_frame (behind : List UInt8) (frame : Frame) (ahead : List UInt8) :
    unitsFrom (behind ++ (frame.bytes ++ ahead)).toArray behind.length =
      (frame.unitBehind behind ::
          (unitsFrom (behind ++ (frame.bytes ++ ahead)).toArray (behind ++ frame.bytes).length).1,
        (unitsFrom (behind ++ (frame.bytes ++ ahead)).toArray (behind ++ frame.bytes).length).2) := by
  have positive : 0 < frame.body.length := List.length_pos_iff.mpr frame.nonempty
  -- The length reads back, and leads to the end of the frame.
  have told : unitLength ⟨(behind ++ (frame.bytes ++ ahead)).toArray, behind.length⟩ =
      .ok (frame.format, frame.body.length)
        (.between (behind ++ frame.format.lengthBytes frame.body.length) (frame.body ++ ahead)) := by
    have reads := reads_unitLength frame.short behind (frame.body ++ ahead)
    rwa [← List.append_assoc (frame.format.lengthBytes _)] at reads
  have stop : (behind ++ frame.format.lengthBytes frame.body.length).length + frame.body.length =
      (behind ++ frame.bytes).length := by
    simp [Frame.bytes, Nat.add_assoc]
  -- The bytes up to the unit's end are those behind it and its own.
  have own : Bytes.slice (behind ++ (frame.bytes ++ ahead)).toArray 0
      (behind ++ frame.bytes).length =
        (behind ++ frame.format.lengthBytes frame.body.length ++ frame.body).toArray := by
    rw [← List.append_assoc behind]
    apply Array.toList_inj.mp
    rw [Bytes.slice, Array.toList_extract, List.extract_eq_take_drop, List.drop_zero, Nat.sub_zero,
      List.take_left, Frame.bytes, List.append_assoc]
  rw [unitsFrom_of_usable _ told]
  · simp only [Cursor.between_position, stop, own]
    rfl
  · refine ⟨positive, ?_⟩
    simp only [Cursor.between_position, stop]
    simp
  · simp [Frame.bytes]
    omega

/-- All frames are found, and the search goes on behind them. -/
theorem unitsFrom_frames (behind : List UInt8) (frames : List Frame) (ahead : List UInt8) :
    unitsFrom (behind ++ (frames.flatMap Frame.bytes ++ ahead)).toArray behind.length =
      (Frame.unitsBehind behind frames ++
          (unitsFrom (behind ++ (frames.flatMap Frame.bytes ++ ahead)).toArray
            (behind ++ frames.flatMap Frame.bytes).length).1,
        (unitsFrom (behind ++ (frames.flatMap Frame.bytes ++ ahead)).toArray
          (behind ++ frames.flatMap Frame.bytes).length).2) := by
  -- The first frame joins the bytes behind the others.
  induction frames generalizing behind with
  | nil => simp [Frame.unitsBehind]
  | cons frame frames ih =>
    have first := unitsFrom_frame behind frame (frames.flatMap Frame.bytes ++ ahead)
    have others := ih (behind ++ frame.bytes)
    simp only [List.append_assoc, List.flatMap_cons] at first others ⊢
    rw [first, others]
    rfl

/-- The units of bytes emit the same rows with more bytes in front. -/
theorem rows_unitsFrom_shift (front data : Bytes) (offset : Nat) :
    (unitsFrom (front ++ data) (front.size + offset)).1.map (·.outcome.rows) =
      (unitsFrom data offset).1.map (·.outcome.rows) := by
  have size : (front ++ data).size = front.size + data.size := Array.size_append
  have told : ∀ place, unitLength ⟨front ++ data, front.size + place⟩ =
      shifted front id (unitLength ⟨data, place⟩) :=
    fun place => translates_unitLength ⟨data, place⟩
  -- Each unit found ends at the same place in both, and the search goes on from there.
  fun_induction unitsFrom data offset with
  | case1 offset ended =>
    have past : (front ++ data).size ≤ front.size + offset := by
      omega
    rw [unitsFrom_eq, if_pos past]
  | case2 offset more fault after failed =>
    have within : ¬ (front ++ data).size ≤ front.size + offset := by
      omega
    rw [unitsFrom_eq, if_neg within, told, failed]
    rfl
  | case3 offset more format length body done usable stop unit units halt found ih =>
    have same := told offset
    rw [done] at same
    have bounded : front.size + body.position + length ≤ (front ++ data).size := by
      omega
    -- The unit ends with the bytes up to its end, and those in front of them.
    have own : Bytes.slice (front ++ data) 0 (front.size + body.position + length) =
        front ++ data.slice 0 (body.position + length) := by
      rw [Nat.add_assoc, Bytes.slice, Array.extract_append, Array.extract_eq_self_of_le (by omega)]
      simp [Bytes.slice]
    rw [unitsFrom_of_usable _ same ⟨usable.1, bounded⟩]
    · have rows : (decodeUnit format
          (Cursor.shift front ⟨data.slice 0 stop, body.position⟩)).rows = _ :=
        rows_decodeUnit_shift format ⟨data.slice 0 stop, body.position⟩
      simp only [Cursor.shift, Nat.add_assoc] at own rows ⊢
      rw [own, List.map_cons, rows, ih, found]
      rfl
    · omega
  | case4 offset more format length body done unusable =>
    -- A length is zero or goes past the end in both, which halts the search.
    have within : ¬ (front ++ data).size ≤ front.size + offset := by
      omega
    have beyond : ¬ (0 < length ∧ (body.shift front).position + length ≤ (front ++ data).size) := by
      simp only [Cursor.shift]
      omega
    rw [unitsFrom_eq, if_neg within, told, done]
    simp only [shifted, id, if_neg beyond]

end LineProgram

namespace LineTable

open LineProgram

/-- Nothing is emitted from the end of the bytes on. -/
theorem unitsFrom_end (data : Bytes) : unitsFrom data data.size = ([], none) := by
  rw [unitsFrom_eq, if_pos (Nat.le_refl _)]

/-- No bytes emit no rows. -/
theorem emitted_empty : emitted #[] = [] := by
  have ended : unitsFrom #[] 0 = ([], none) := unitsFrom_end #[]
  rw [emitted, ended]
  rfl

/-- The table of bytes is that of the rows that they emit. -/
theorem parse_fst (data : Bytes) : (parse data).1 = ofHistory (emitted data) := rfl

/-- A unit emits the same rows behind any bytes as it does alone. -/
theorem rows_unitBehind (frame : Frame) (behind : List UInt8) :
    (frame.unitBehind behind).outcome.rows.toList = emitted frame.bytes.toArray := by
  -- Alone, the unit stands at the start and nothing follows it.
  have alone := unitsFrom_frame [] frame []
  simp only [List.append_nil, List.nil_append, List.length_nil] at alone
  have last := unitsFrom_end frame.bytes.toArray
  rw [List.size_toArray] at last
  rw [last] at alone
  rw [emitted, alone]
  have moved : (decodeUnit frame.format (Cursor.shift behind.toArray
      (.between (frame.format.lengthBytes frame.body.length) frame.body))).rows = _ :=
    rows_decodeUnit_shift _ _
  simp only [history, List.flatMap_cons, List.flatMap_nil, List.append_nil, Frame.unitBehind,
    List.nil_append, ← moved]
  simp [Cursor.shift, Cursor.between]

/-- Units emit the same rows behind any bytes as each does alone. -/
theorem history_unitsBehind (behind : List UInt8) (frames : List Frame) :
    history (Frame.unitsBehind behind frames) =
      frames.flatMap fun frame => emitted frame.bytes.toArray := by
  -- The bytes behind a unit grow, and its rows do not depend on them.
  induction frames generalizing behind with
  | nil => rfl
  | cons frame frames ih =>
    have rest := ih (behind ++ frame.bytes)
    simp only [history, Frame.unitsBehind, List.flatMap_cons, rows_unitBehind] at rest ⊢
    rw [rest]

/-- The rows of frames and of the bytes behind them are those that each emits alone. -/
theorem emitted_append (frames : List Frame) (rest : Bytes) :
    emitted ((frames.flatMap Frame.bytes).toArray ++ rest) =
      frames.flatMap (fun frame => emitted frame.bytes.toArray) ++ emitted rest := by
  have found := unitsFrom_frames [] frames rest.toList
  simp only [List.nil_append, List.length_nil] at found
  have joined : (frames.flatMap Frame.bytes ++ rest.toList).toArray =
      (frames.flatMap Frame.bytes).toArray ++ rest := by
    simp
  -- What follows the frames is found as if it stood at the start.
  have later := rows_unitsFrom_shift (frames.flatMap Frame.bytes).toArray rest 0
  rw [joined] at found
  rw [Nat.add_zero, List.size_toArray] at later
  have last := congrArg (List.flatMap Array.toList) later
  rw [List.flatMap_map, List.flatMap_map] at last
  rw [emitted, found, history, List.flatMap_append]
  exact congrArg₂ (· ++ ·) (history_unitsBehind [] frames) last

/-- Frames in front of any bytes add their rows and are hidden where the bytes have their own, and
no unit changes what another one emits. -/
theorem parse_append (frames : List Frame) (rest : Bytes) :
    let whole := (frames.flatMap Frame.bytes).toArray
    emitted (whole ++ rest) =
        frames.flatMap (fun frame => emitted frame.bytes.toArray) ++ emitted rest ∧
      Ascending (parse (whole ++ rest)).1.rows ∧
      ∀ address, (parse (whole ++ rest)).1.at? address =
        ((parse rest).1.at? address).or ((parse whole).1.at? address) := by
  intro whole
  -- The rows of both parts are those that were emitted, one part after the other.
  have both := emitted_append frames rest
  have alone := emitted_append frames #[]
  rw [Array.append_empty, emitted_empty, List.append_nil] at alone
  refine ⟨both, ?_, ?_⟩
  · rw [parse_fst]
    exact ascending_ofHistory _
  · intro address
    rw [parse_fst, parse_fst, parse_fst, both, alone, at?_ofHistory_append]

end LineTable

end Footprint
