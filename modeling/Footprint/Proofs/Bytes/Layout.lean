import Footprint.Proofs.Cursor.Reads

/-! Runs of bytes laid out in a file, and found again where they were put. -/

namespace Footprint

/-- Bytes that stand at a place. -/
structure Block where
  offset : Nat
  bytes : List UInt8

namespace Block

/-- The byte that a block puts at a place. -/
def byte? (block : Block) (place : Nat) : Option UInt8 :=
  if block.offset ≤ place then block.bytes[place - block.offset]? else none

/-- The end of a block. -/
def stop (block : Block) : Nat := block.offset + block.bytes.length

/-- Whether a block puts a byte at a place. -/
def Covers (block : Block) (place : Nat) : Prop := block.offset ≤ place ∧ place < block.stop

/-- Whether no place belongs to two blocks. -/
def Apart (first second : Block) : Prop := ∀ place, ¬ (first.Covers place ∧ second.Covers place)

/-- Blocks keep apart if one ends before the other starts. -/
theorem apart_of_beside {first second : Block}
    (beside : first.stop ≤ second.offset ∨ second.stop ≤ first.offset) : first.Apart second := by
  -- A place in both would lie on both sides of the end of the earlier one.
  rintro place ⟨⟨start, stop⟩, ⟨next, last⟩⟩
  omega

/-- A block puts no byte at a place that it does not cover. -/
theorem byte?_of_not_covers {block : Block} {place : Nat} (outside : ¬ block.Covers place) :
    block.byte? place = none := by
  rw [byte?]
  by_cases after : block.offset ≤ place
  · -- A place behind the start that is not covered lies behind the end.
    have beyond : ¬ place < block.stop := fun before => outside ⟨after, before⟩
    rw [stop] at beyond
    rw [if_pos after]
    apply List.getElem?_eq_none
    omega
  · rw [if_neg after]

/-- The bytes of a block, place by place. -/
theorem byte?_offset_add (block : Block) (index : Nat) :
    block.byte? (block.offset + index) = block.bytes[index]? := by
  -- The place lies behind the start by the index.
  rw [byte?, if_pos (Nat.le_add_right _ _), Nat.add_sub_cancel_left]

end Block

namespace Bytes

/-- Whether bytes stand at a place. -/
structure Carries (data : Bytes) (block : Block) : Prop where
  inside : block.stop ≤ data.size
  same : data.slice block.offset block.stop = block.bytes.toArray

/-- A file of a size, with the bytes of blocks and a filler between them. -/
def lay (size : Nat) (filler : Nat → UInt8) (blocks : List Block) : Bytes :=
  Array.ofFn fun place : Fin size =>
    (blocks.findSome? (·.byte? place)).getD (filler place)

/-- A file has the size that was asked for. -/
@[simp] theorem size_lay (size : Nat) (filler : Nat → UInt8) (blocks : List Block) :
    (lay size filler blocks).size = size := by
  simp [lay]

/-- Of blocks that keep apart, only the one that covers a place puts a byte there. -/
theorem findSome?_byte? {blocks : List Block} (apart : blocks.Pairwise Block.Apart) {block : Block}
    (member : block ∈ blocks) {place : Nat} (covers : block.Covers place) :
    blocks.findSome? (·.byte? place) = block.byte? place := by
  -- A place that the block covers has one of its bytes.
  obtain ⟨start, bounds⟩ := covers
  have within : place - block.offset < block.bytes.length := by
    rw [Block.stop] at bounds
    omega
  have present : block.byte? place = some block.bytes[place - block.offset] := by
    rw [Block.byte?, if_pos start, List.getElem?_eq_getElem within]
  -- The search passes the blocks in front of it, which do not cover the place.
  induction blocks with
  | nil => exact absurd member List.not_mem_nil
  | cons first rest ih =>
    obtain ⟨alone, others⟩ := List.pairwise_cons.mp apart
    rw [List.findSome?_cons]
    rcases List.mem_cons.mp member with here | later
    · rw [← here, present]
    · have outside : ¬ first.Covers place := by
        intro both
        exact alone block later place ⟨both, start, bounds⟩
      rw [Block.byte?_of_not_covers outside]
      exact ih others later

/-- Blocks that keep apart stand in a file that has room for them. -/
theorem carries_lay {size : Nat} {filler : Nat → UInt8} {blocks : List Block}
    (apart : blocks.Pairwise Block.Apart) {block : Block} (member : block ∈ blocks)
    (inside : block.stop ≤ size) : (lay size filler blocks).Carries block := by
  refine ⟨by rwa [size_lay], ?_⟩
  -- The slice and the block are compared place by place, and have as many places.
  apply Array.ext
  · rw [slice, Array.size_extract, size_lay, List.size_toArray, Nat.min_eq_left inside, Block.stop]
    omega
  · intro index left right
    rw [List.size_toArray] at right
    -- Each place of the slice is covered by the block, and by no other.
    have covers : block.Covers (block.offset + index) :=
      ⟨Nat.le_add_right _ _, Nat.add_lt_add_left right _⟩
    simp only [slice, Array.getElem_extract, lay, Array.getElem_ofFn]
    rw [findSome?_byte? apart member covers, Block.byte?_offset_add, List.getElem?_eq_getElem right]
    simp

/-- Bytes that stand at a place have others behind and ahead of them. -/
theorem Carries.split {data : Bytes} {block : Block} (carried : data.Carries block) :
    ∃ behind ahead, behind.length = block.offset ∧
      data = (behind ++ (block.bytes ++ ahead)).toArray := by
  -- The block's place and its end cut the file into three.
  have inside := carried.inside
  have same := congrArg Array.toList carried.same
  rw [Block.stop] at inside
  refine ⟨data.toList.take block.offset, data.toList.drop block.stop, ?_, ?_⟩
  · rw [List.length_take, Array.length_toList]
    omega
  · apply Array.toList_inj.mp
    simp only [slice, Array.toList_extract, List.extract, Block.stop] at same
    rw [Nat.add_sub_cancel_left, List.toList_toArray] at same
    -- The second part is the block's, and joining the parts gives the file back.
    have front := List.take_append_drop block.offset data.toList
    have back := List.take_append_drop block.bytes.length (data.toList.drop block.offset)
    rw [same, List.drop_drop] at back
    rw [← back] at front
    exact front.symm

end Bytes

end Footprint
