import Footprint.Proofs.LineTable.Assembled

/-! Sequences whose ranges are apart are looked up alike in any order, but for the row that ends one
sequence where another one starts. -/

namespace Footprint

namespace LineProgram

/-- Rows at addresses that do not descend, and above them the row that ends them. -/
structure Sequence where
  rows : List Row
  last : Row
  nonempty : rows ≠ []
  sorted : rows.Pairwise fun first second => first.address ≤ second.address
  above : ∀ row ∈ rows, row.address < last.address

namespace Sequence

/-- The address of the first row. -/
def start (sequence : Sequence) : UInt64 := (sequence.rows.head sequence.nonempty).address

/-- Whether an address lies in the range of a sequence, to which its last row does not belong. -/
def Covers (sequence : Sequence) (address : UInt64) : Prop :=
  sequence.start ≤ address ∧ address < sequence.last.address

/-- Whether two sequences have no address in common. -/
def Apart (first second : Sequence) : Prop :=
  ∀ address, ¬ (first.Covers address ∧ second.Covers address)

/-- The last row of a sequence that is not above an address; the row that ends the sequence does
not count. -/
def rowAt? (sequence : Sequence) (address : UInt64) : Option Row :=
  (sequence.rows.filter (·.address ≤ address)).getLast?

/-- The rows in the order of their emission. -/
def emitted (sequence : Sequence) : List Row := sequence.rows ++ [sequence.last]

variable {own other first second : Sequence} {row : Row} {address : UInt64}

/-- The first row is the lowest one. -/
theorem start_le (member : row ∈ own.rows) : own.start ≤ row.address := by
  obtain ⟨rows, last, nonempty, sorted, above⟩ := own
  cases rows with
  | nil => exact (nonempty rfl).elim
  | cons first rest => exact LineTable.address_le_of_mem sorted member

/-- A range is not empty. -/
theorem start_lt_last (sequence : Sequence) : sequence.start < sequence.last.address :=
  sequence.above _ (List.head_mem sequence.nonempty)

/-- Being apart does not depend on which sequence is named first. -/
theorem Apart.symm (apart : first.Apart second) : second.Apart first :=
  fun address both => apart address both.symm

/-- Of two sequences that are apart, one ends before the other one starts. -/
theorem Apart.ordered (apart : first.Apart second) :
    first.last.address ≤ second.start ∨ second.last.address ≤ first.start := by
  by_contra neither
  rw [not_or, UInt64.not_le, UInt64.not_le] at neither
  obtain ⟨firstPast, secondPast⟩ := neither
  -- The higher one of both starts lies in both ranges.
  rcases UInt64.le_total first.start second.start with before | behind
  · exact apart second.start ⟨⟨before, firstPast⟩, UInt64.le_refl _, second.start_lt_last⟩
  · exact apart first.start ⟨⟨UInt64.le_refl _, first.start_lt_last⟩, behind, secondPast⟩

/-- Two sequences that are apart end at different addresses. -/
theorem Apart.last_ne (apart : first.Apart second) :
    first.last.address ≠ second.last.address := by
  intro same
  have firstLong := first.start_lt_last
  have secondLong := second.start_lt_last
  rcases apart.ordered with before | behind
  · exact UInt64.lt_irrefl _ (UInt64.lt_of_le_of_lt (same ▸ before) secondLong)
  · exact UInt64.lt_irrefl _ (UInt64.lt_of_le_of_lt (same ▸ behind) firstLong)

/-- A row that a sequence emits in the range of another one is its last row, at the start of that
range. -/
theorem Apart.eq_last (apart : own.Apart other) (member : row ∈ other.emitted)
    (covered : own.Covers row.address) :
    row = other.last ∧ other.last.address = own.start := by
  -- The other sequence ends before, as its rows would be above the range otherwise.
  have ended : other.last.address ≤ own.start := by
    rcases apart.ordered with above | below
    · exfalso
      have reached : other.start ≤ row.address := by
        rcases List.mem_append.mp member with inside | final
        · exact start_le inside
        · rw [List.mem_singleton.mp final]
          exact UInt64.le_of_lt other.start_lt_last
      exact UInt64.lt_irrefl _ (UInt64.lt_of_le_of_lt (UInt64.le_trans above reached) covered.2)
    · exact below
  rcases List.mem_append.mp member with inside | final
  · -- A row below the last one is below the range too.
    have below := UInt64.lt_of_lt_of_le (other.above row inside) ended
    exact (UInt64.lt_irrefl _ (UInt64.lt_of_lt_of_le below covered.1)).elim
  · have same := List.mem_singleton.mp final
    exact ⟨same, UInt64.le_antisymm ended (same ▸ covered.1)⟩

/-- A sequence has a row at each address that it covers, since the first one is not above it. -/
theorem exists_rowAt? (covered : own.Covers address) : ∃ row, own.rowAt? address = some row := by
  have reached : own.rows.filter (·.address ≤ address) ≠ [] := by
    intro none
    have high := List.filter_eq_nil_iff.mp none _ (List.head_mem own.nonempty)
    exact high (decide_eq_true covered.1)
  exact ⟨_, List.getLast?_eq_some_getLast reached⟩

/-- The row of a sequence at an address is one of its rows, and not above the address. -/
theorem mem_of_rowAt? (found : own.rowAt? address = some row) :
    row ∈ own.rows ∧ row.address ≤ address := by
  obtain ⟨member, below⟩ := List.mem_filter.mp (List.mem_of_getLast? found)
  exact ⟨member, of_decide_eq_true below⟩

/-- No row of a sequence stands between an address and the row that the sequence has there. -/
theorem nearest_of_rowAt? (found : own.rowAt? address = some row) :
    ∀ next ∈ own.rows, next.address ≤ address → next.address ≤ row.address := by
  obtain ⟨front, split⟩ := List.getLast?_eq_some_iff.mp found
  -- The rows that are not above the address are sorted, and this one is the last of them.
  have ascending := own.sorted.filter fun other => decide (other.address ≤ address)
  rw [split, List.pairwise_append] at ascending
  intro next inside low
  have kept : next ∈ front ++ [row] :=
    split ▸ List.mem_filter.mpr ⟨inside, decide_eq_true low⟩
  rcases List.mem_append.mp kept with earlier | final
  · exact ascending.2.2 next earlier row (List.mem_singleton_self row)
  · rw [List.mem_singleton.mp final]
    exact UInt64.le_refl _

/-- The row of a sequence at an address is the last one that the sequence emits where it stands. -/
theorem latest_of_rowAt? (found : own.rowAt? address = some row) :
    (own.emitted.filter (·.address = row.address)).getLast? = some row := by
  obtain ⟨member, below⟩ := mem_of_rowAt? found
  obtain ⟨front, split⟩ := List.getLast?_eq_some_iff.mp found
  -- Rows at its address are not above the given one, so they are among those kept.
  have among : own.rows.filter (·.address = row.address) =
      (own.rows.filter (·.address ≤ address)).filter (·.address = row.address) := by
    rw [List.filter_filter]
    apply List.filter_congr
    intro other _
    by_cases same : other.address = row.address
    · simp [same, below]
    · simp [same]
  have ends : own.last.address ≠ row.address := by
    intro same
    exact UInt64.lt_irrefl _ (same ▸ own.above row member)
  rw [emitted, List.filter_append, among, split, List.filter_append]
  simp [ends]

/-- The row of a sequence at an address stands in the range of the sequence. -/
theorem covers_of_rowAt? (found : own.rowAt? address = some row) : own.Covers row.address := by
  obtain ⟨member, -⟩ := mem_of_rowAt? found
  exact ⟨start_le member, own.above row member⟩

end Sequence

/-- Instructions of a unit that emit the rows of a sequence, and the one that ends it. -/
structure Draft.Passage (draft : Draft) where
  program : List Operation
  sequence : Sequence
  rows : State.rows draft (.initial draft) program = sequence.rows
  last : (State.after draft (.initial draft) program).row? draft true = some sequence.last

/-- The instructions of a passage up to its end. -/
def Draft.Passage.operations {draft : Draft} (passage : draft.Passage) : List Operation :=
  passage.program ++ [.endSequence]

/-- Passages emit their sequences one after the other. -/
theorem rows_passages {draft : Draft} (passages : List draft.Passage) :
    State.rows draft (.initial draft) (passages.flatMap Draft.Passage.operations) =
      (passages.map Draft.Passage.sequence).flatMap Sequence.emitted := by
  -- The end of a passage leaves the machine as it was at its start.
  induction passages with
  | nil => rfl
  | cons passage passages ih =>
    rw [List.flatMap_cons, Draft.Passage.operations, List.append_assoc, State.rows_append,
      passage.rows, List.singleton_append, State.rows]
    change passage.sequence.rows ++ (Option.toList (State.row? _ draft true) ++
      State.rows draft (.initial draft) _) = _
    rw [passage.last, ih]
    simp [Sequence.emitted]

/-- A unit whose program consists of passages. -/
structure SequencedUnit where
  assembly : Assembly
  passages : List assembly.toDraft.Passage
  program : assembly.program = passages.flatMap Draft.Passage.operations

/-- The sequences of a unit in the order of their emission. -/
def SequencedUnit.sequences (unit : SequencedUnit) : List Sequence :=
  unit.passages.map Draft.Passage.sequence

/-- A unit emits its sequences. -/
theorem SequencedUnit.rows (unit : SequencedUnit) :
    unit.assembly.rows = unit.sequences.flatMap Sequence.emitted := by
  rw [Draft.rows, unit.program]
  exact rows_passages unit.passages

/-- Units that sequences are spread over, in any order. -/
structure Arrangement (sequences : List Sequence) where
  units : List SequencedUnit
  all : (units.flatMap SequencedUnit.sequences).Perm sequences

namespace Arrangement

variable {sequences : List Sequence}

/-- The sequences in the order of their emission. -/
def order (arrangement : Arrangement sequences) : List Sequence :=
  arrangement.units.flatMap SequencedUnit.sequences

/-- The bytes of the units. -/
def bytes (arrangement : Arrangement sequences) : Bytes :=
  (arrangement.units.flatMap fun unit => unit.assembly.frame.bytes).toArray

/-- Sequences that are apart stay so in any order. -/
theorem pairwise_order (arrangement : Arrangement sequences)
    (apart : sequences.Pairwise Sequence.Apart) : arrangement.order.Pairwise Sequence.Apart :=
  (arrangement.all.pairwise_iff Sequence.Apart.symm).mpr apart

/-- The rows of all units are those of the sequences in their order. -/
theorem emitted_bytes (arrangement : Arrangement sequences) :
    LineTable.emitted arrangement.bytes = arrangement.order.flatMap Sequence.emitted := by
  -- Each unit emits its rows by itself.
  have each := LineTable.emitted_append (arrangement.units.map (·.assembly.frame)) #[]
  rw [Array.append_empty, LineTable.emitted_empty, List.append_nil, List.flatMap_map,
    List.flatMap_map] at each
  simp only [LineTable.emitted_assembly, SequencedUnit.rows] at each
  rw [bytes, each, order, List.flatMap_assoc]

end Arrangement

end LineProgram

namespace LineTable

open LineProgram

variable {own other : Sequence} {row : Row} {address : UInt64} {before after : List Sequence}

/-- The row that stays at the address of a row behind later sequences: the last row of the first one
that ends there, or the row itself where none does. -/
def standing (row : Row) (after : List Sequence) : Row :=
  ((after.find? (·.last.address = row.address)).map Sequence.last).getD row

/-- The last row that is emitted at an address is the one of the last sequence that has one. -/
theorem getLast?_rowsAt (last : (own.emitted.filter (·.address = address)).getLast? = some row)
    (silent : ∀ other ∈ after, ∀ next ∈ other.emitted, next.address ≠ address) :
    (((before ++ own :: after).flatMap Sequence.emitted).filter
      (·.address = address)).getLast? = some row := by
  have none : (after.flatMap Sequence.emitted).filter (·.address = address) = [] := by
    rw [List.filter_eq_nil_iff]
    intro next member
    obtain ⟨other, listed, among⟩ := List.mem_flatMap.mp member
    simpa using silent other listed next among
  rw [List.flatMap_append, List.flatMap_cons, List.filter_append, List.filter_append, none,
    List.append_nil, List.getLast?_append, last, Option.some_or]

/-- A row stays unless a later sequence ends where it stands. -/
theorem standing_eq (row : Row) (after : List Sequence) :
    (standing row after = row ∧ ∀ other ∈ after, other.last.address ≠ row.address) ∨
      ∃ other ∈ after, other.last.address = row.address ∧ standing row after = other.last := by
  cases found : after.find? (·.last.address = row.address) with
  | none =>
    refine .inl ⟨by rw [standing, found]; rfl, ?_⟩
    simpa using found
  | some other =>
    have ends : other.last.address = row.address := by simpa using List.find?_some found
    exact .inr ⟨other, List.mem_of_find?_eq_some found, ends, by rw [standing, found]; rfl⟩

/-- The row that stays is one at the same address. -/
theorem standing_address (row : Row) (after : List Sequence) :
    (standing row after).address = row.address := by
  rcases standing_eq row after with ⟨same, -⟩ | ⟨other, -, ends, same⟩
  · rw [same]
  · rw [same, ends]

/-- A sequence is apart from a later one. -/
theorem apart_later (apart : (before ++ own :: after).Pairwise Sequence.Apart)
    (later : other ∈ after) : own.Apart other := by
  obtain ⟨-, behind, -⟩ := List.pairwise_append.mp apart
  exact (List.pairwise_cons.mp behind).1 other later

/-- A sequence is apart from all others, whether they are earlier or later. -/
theorem apart_around (apart : (before ++ own :: after).Pairwise Sequence.Apart)
    (member : other ∈ before ++ own :: after) : other = own ∨ own.Apart other := by
  obtain ⟨-, -, across⟩ := List.pairwise_append.mp apart
  rcases List.mem_append.mp member with earlier | rest
  · exact .inr (across other earlier own List.mem_cons_self).symm
  · rcases List.mem_cons.mp rest with same | later
    · exact .inl same
    · exact .inr (apart_later apart later)

/-- No row stands between an address that a sequence covers and the row that the sequence has
there. -/
theorem nearest_arranged (apart : (before ++ own :: after).Pairwise Sequence.Apart)
    (covered : own.Covers address) (found : own.rowAt? address = some row) :
    ∀ next ∈ (before ++ own :: after).flatMap Sequence.emitted,
      next.address ≤ address → next.address ≤ row.address := by
  intro next emitted low
  obtain ⟨other, listed, among⟩ := List.mem_flatMap.mp emitted
  obtain ⟨started, -⟩ := Sequence.covers_of_rowAt? found
  by_contra past
  rw [UInt64.not_le] at past
  have within : own.Covers next.address :=
    ⟨UInt64.le_trans started (UInt64.le_of_lt past), UInt64.lt_of_le_of_lt low covered.2⟩
  rcases apart_around apart listed with rfl | away
  · rcases List.mem_append.mp among with inside | final
    · have near := Sequence.nearest_of_rowAt? found next inside low
      exact UInt64.lt_irrefl _ (UInt64.lt_of_lt_of_le past near)
    · rw [List.mem_singleton.mp final] at within
      exact UInt64.lt_irrefl _ within.2
  · -- A row of another sequence stands at the start of the range, if it stands in it at all.
    obtain ⟨same, atStart⟩ := away.eq_last among within
    rw [same, atStart] at past
    exact UInt64.lt_irrefl _ (UInt64.lt_of_le_of_lt started past)

/-- Of the rows at the place of a row that a sequence has, the last one in the order of their
emission is the one that stays there. -/
theorem latest_arranged (apart : (before ++ own :: after).Pairwise Sequence.Apart)
    (found : own.rowAt? address = some row) :
    (((before ++ own :: after).flatMap Sequence.emitted).filter
      (·.address = row.address)).getLast? = some (standing row after) := by
  -- What later sequences emit there are the last rows of those that end there.
  have later : ∀ other ∈ after, ∀ next ∈ other.emitted, next.address = row.address →
      other.last.address = row.address := by
    intro other listed next among same
    have within : own.Covers next.address := same ▸ Sequence.covers_of_rowAt? found
    obtain ⟨final, -⟩ := (apart_later apart listed).eq_last among within
    exact final ▸ same
  rcases standing_eq row after with ⟨same, silent⟩ | ⟨other, listed, ends, same⟩
  · rw [same]
    refine getLast?_rowsAt (Sequence.latest_of_rowAt? found) ?_
    intro other listed next among there
    exact silent other listed (later other listed next among there)
  · rw [same]
    rw [← ends] at later ⊢
    -- No sequence behind this one ends at the same address.
    obtain ⟨front, behind, rfl⟩ := List.append_of_mem listed
    rw [← List.cons_append, ← List.append_assoc] at apart ⊢
    refine getLast?_rowsAt (by simp [Sequence.emitted]) ?_
    intro last further next among there
    have again := later last (by simp [further]) next among there
    exact (apart_later apart further).last_ne again.symm

/-- The row that a sequence has at an address is looked up there, or the last row of a later
sequence that ends where it stands. -/
theorem lookup?_arranged (apart : (before ++ own :: after).Pairwise Sequence.Apart)
    (covered : own.Covers address) (found : own.rowAt? address = some row) :
    (ofHistory ((before ++ own :: after).flatMap Sequence.emitted)).lookup? address =
      some (standing row after) := by
  have place := standing_address row after
  obtain ⟨-, below⟩ := Sequence.mem_of_rowAt? found
  apply lookup?_ofHistory
  · rw [place]
    exact latest_arranged apart found
  · rw [place]
    exact below
  · rw [place]
    exact nearest_arranged apart covered found

/-- In the table of an arrangement, the row of a sequence is found behind those of earlier ones. -/
theorem lookup?_arrangement {sequences : List Sequence} (arrangement : Arrangement sequences)
    (apart : sequences.Pairwise Sequence.Apart) (order : arrangement.order = before ++ own :: after)
    (covered : own.Covers address) (found : own.rowAt? address = some row) :
    (parse arrangement.bytes).1.lookup? address = some (standing row after) := by
  have apart := arrangement.pairwise_order apart
  rw [parse_fst, arrangement.emitted_bytes]
  rw [order] at apart ⊢
  exact lookup?_arranged apart covered found

/-- An address in the range of a sequence leads to the row that the sequence has there, however
sequences with ranges apart are spread over units, unless another one ends where that row stands:
this is at the start of the range, and the row that is emitted later stays. -/
theorem lookup?_sequences {sequences : List Sequence} (apart : sequences.Pairwise Sequence.Apart)
    {own : Sequence} (member : own ∈ sequences) {address : UInt64} (covered : own.Covers address) :
    ∃ row, own.rowAt? address = some row ∧
      (∀ (arrangement : Arrangement sequences) (before after : List Sequence),
        arrangement.order = before ++ own :: after →
          (parse arrangement.bytes).1.lookup? address = some (standing row after)) ∧
      (∀ other ∈ sequences, other.last.address = row.address → row.address = own.start) ∧
      ((∀ other ∈ sequences, other.last.address ≠ row.address) →
        ∀ arrangement : Arrangement sequences,
          (parse arrangement.bytes).1.lookup? address = some row) := by
  obtain ⟨row, found⟩ := Sequence.exists_rowAt? covered
  have arranged : ∀ (arrangement : Arrangement sequences) (before after : List Sequence),
      arrangement.order = before ++ own :: after →
        (parse arrangement.bytes).1.lookup? address = some (standing row after) :=
    fun arrangement _ _ order => lookup?_arrangement arrangement apart order covered found
  have within := Sequence.covers_of_rowAt? found
  refine ⟨row, found, arranged, ?_, ?_⟩
  · intro other listed ends
    obtain ⟨before, after, rfl⟩ := List.append_of_mem member
    rcases apart_around apart listed with rfl | away
    · -- The sequence itself ends above its rows.
      exact (UInt64.lt_irrefl _ (ends ▸ within.2)).elim
    · have final : other.last ∈ other.emitted := by simp [Sequence.emitted]
      obtain ⟨-, atStart⟩ := away.eq_last final (ends ▸ within)
      exact ends.symm.trans atStart
  · intro unmet arrangement
    obtain ⟨before, after, order⟩ := List.append_of_mem (arrangement.all.mem_iff.mpr member)
    rw [arranged arrangement before after order]
    rcases standing_eq row after with ⟨same, -⟩ | ⟨other, listed, ends, -⟩
    · rw [same]
    · -- All sequences of the units are among the given ones.
      have known : other ∈ arrangement.order := by
        rw [Arrangement.order, order]
        simp [listed]
      exact (unmet other (arrangement.all.mem_iff.mp known) ends).elim

/-- One of two blocks of four bytes, of which the upper one starts where the lower one ends. -/
def block (upper : Bool) : Sequence where
  rows := [⟨if upper then 0x1004 else 0x1000, "main.c", 1, 0, true, false, false⟩]
  last := ⟨if upper then 0x1008 else 0x1004, "main.c", 1, 0, true, false, true⟩
  nonempty := List.cons_ne_nil _ _
  sorted := List.pairwise_singleton _ _
  above := by cases upper <;> decide

/-- The instructions of a block up to the one that ends it. -/
def blockProgram (upper : Bool) : List Operation :=
  [.setAddress (Bytes.digits 8 (if upper then 0x1004 else 0x1000)), .standard .copy,
    .standard (.advancePc 4)]

/-- A unit that consists of one block. -/
def blockUnit (upper : Bool) : SequencedUnit where
  assembly := {
    format := .narrow, version := 2, minInstructionLength := 1, maxOperations := 1
    defaultIsStmt := 1, lineBase := -3, lineRange := 12, operandCounts := [0, 1]
    directories := []
    files := [⟨⟨"main.c", by decide, by decide⟩, 0, 0, 0⟩]
    padding := []
    program := blockProgram upper ++ [.endSequence]
    supported := by decide
    divisible := by decide
    opcodes := by decide
    fits := by cases upper <;> decide
    short := by cases upper <;> decide +kernel }
  passages := [{
    program := blockProgram upper
    sequence := block upper
    rows := by cases upper <;> decide +kernel
    last := by cases upper <;> decide +kernel }]
  program := rfl

/-- Both blocks in two units, with one of them first. -/
def blocks (upperFirst : Bool) : Arrangement [block false, block true] where
  units := [blockUnit upperFirst, blockUnit !upperFirst]
  all := by
    cases upperFirst
    · exact .refl _
    · exact .swap _ _ _

/-- The blocks have no address in common. -/
theorem pairwise_blocks : [block false, block true].Pairwise Sequence.Apart := by
  refine List.pairwise_pair.mpr ?_
  rintro address ⟨lower, upper⟩
  exact UInt64.lt_irrefl _ (UInt64.lt_of_lt_of_le lower.2 upper.1)

/-- The row of the upper block is found behind the end of the lower one, which stays if it is
emitted later. -/
theorem lookup?_sequences_blocks :
    [block false, block true].Pairwise Sequence.Apart ∧ block true ∈ [block false, block true] ∧
      (block true).Covers 0x1006 ∧
      ∃ row, (block true).rowAt? 0x1006 = some row ∧
        (parse (blocks false).bytes).1.lookup? 0x1006 = some row ∧
        (parse (blocks true).bytes).1.lookup? 0x1006 = some (block false).last := by
  have member : block true ∈ [block false, block true] := by simp
  have covered : (block true).Covers 0x1006 := ⟨by decide, by decide⟩
  obtain ⟨row, found, arranged, -, -⟩ := lookup?_sequences pairwise_blocks member covered
  have read : row = ⟨0x1004, "main.c", 1, 0, true, false, false⟩ :=
    (Option.some_inj.mp found).symm
  refine ⟨pairwise_blocks, member, covered, row, found, ?_, ?_⟩
  · exact arranged (blocks false) [block false] [] rfl
  · rw [arranged (blocks true) [] [block false] rfl, read]
    rfl

/-- A sequence that ends where another one starts hides the first row of that one if it is emitted
later, although their ranges have no address in common. -/
theorem lookup?_end_hides_start :
    [block false, block true].Pairwise Sequence.Apart ∧ (block true).Covers 0x1004 ∧
      ∃ row, (block true).rowAt? 0x1004 = some row ∧ row ≠ (block false).last ∧
        (parse (blocks false).bytes).1.lookup? 0x1004 = some row ∧
        (parse (blocks true).bytes).1.lookup? 0x1004 = some (block false).last := by
  have covered : (block true).Covers 0x1004 := ⟨by decide, by decide⟩
  obtain ⟨row, found⟩ := Sequence.exists_rowAt? covered
  have read : row = ⟨0x1004, "main.c", 1, 0, true, false, false⟩ :=
    (Option.some_inj.mp found).symm
  have last : row ≠ (block false).last := by
    rw [read]
    decide
  -- The lower block is emitted before the upper one in the first order, and after it in the other.
  have upperLast : (blocks false).order = [block false] ++ block true :: [] := rfl
  have upperFirst : (blocks true).order = [] ++ block true :: [block false] := rfl
  refine ⟨pairwise_blocks, covered, row, found, last, ?_, ?_⟩
  · exact lookup?_arrangement (blocks false) pairwise_blocks upperLast covered found
  · rw [lookup?_arrangement (blocks true) pairwise_blocks upperFirst covered found, read]
    rfl

end LineTable

end Footprint
