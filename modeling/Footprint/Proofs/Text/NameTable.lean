import Footprint.Proofs.Cursor.Reads

/-! Tables of names, in which each name is found at its place. -/

namespace Footprint

namespace Bytes

/-- A text is found where its bytes and a zero behind them stand. -/
theorem textAt_between {text : String} (unbroken : '\x00' ∉ text.toList)
    (behind ahead : List UInt8) :
    textAt (behind ++ (Text.Utf8.encode text ++ 0 :: ahead)).toArray behind.length = text := by
  -- The text ends at the first zero, which is the one behind its bytes.
  have ends := terminator?_between (Text.Utf8.zero_notMem_encode unbroken) behind ahead
  rw [textAt, ends, Option.getD_some, slice, Cursor.between_slice, Text.Utf8.decode_encode]

end Bytes

/-- The bytes of a name in a table; the empty name has none of its own. -/
def nameBytes (name : String) : List UInt8 :=
  if name = "" then [] else Text.Utf8.encode name ++ [0]

section Places

variable {α : Type} (name : α → String)

/-- Items with the places of their names, where the first name stands at a place; the empty name
stands at the first place of all. -/
def withPlaces (start : Nat) : List α → List (Nat × α)
  | [] => []
  | item :: items =>
    (if name item = "" then 0 else start, item) ::
      withPlaces (start + (nameBytes (name item)).length) items

/-- The names of items one after the other, behind the empty name. -/
def nameTable (items : List α) : List UInt8 := 0 :: items.flatMap fun item => nameBytes (name item)

variable {name}

/-- The items keep their order. -/
theorem map_snd_withPlaces (start : Nat) (items : List α) :
    (withPlaces name start items).map Prod.snd = items := by
  -- Only the places depend on the names in front.
  induction items generalizing start with
  | nil => rfl
  | cons item items ih => rw [withPlaces, List.map_cons, ih]

/-- As many items have places as there are items. -/
theorem length_withPlaces (start : Nat) (items : List α) :
    (withPlaces name start items).length = items.length := by
  rw [← List.length_map Prod.snd, map_snd_withPlaces]

/-- Each name is found at its place, whatever names stand in front of it. -/
theorem textAt_withPlaces (front : List UInt8) {items : List α}
    (unbroken : ∀ item ∈ items, '\x00' ∉ (name item).toList) {place : Nat} {item : α}
    (member : (place, item) ∈ withPlaces name (front.length + 1) items) :
    let table := 0 :: (front ++ items.flatMap fun item => nameBytes (name item))
    place < table.length ∧ Bytes.textAt table.toArray place = name item := by
  -- The bytes of a name that was passed count as in front of the next one.
  induction items generalizing front with
  | nil => exact absurd member List.not_mem_nil
  | cons first rest ih =>
    obtain ⟨own, others⟩ := List.forall_mem_cons.mp unbroken
    rw [withPlaces] at member
    rcases List.mem_cons.mp member with here | later
    · obtain ⟨rfl, rfl⟩ := Prod.mk.inj here
      rw [List.flatMap_cons]
      by_cases empty : name item = ""
      · -- The first byte of the table ends the empty name.
        have none : Bytes.textAt ([] ++ (Text.Utf8.encode "" ++ 0 :: (front ++
            (nameBytes (name item) ++ rest.flatMap fun item => nameBytes (name item))))).toArray 0 =
            "" :=
          Bytes.textAt_between (by simp) [] _
        rw [if_pos empty, empty]
        rw [empty] at none
        exact ⟨Nat.zero_lt_succ _, none⟩
      · -- The other names start behind the first byte and the names in front.
        have found := Bytes.textAt_between own (0 :: front)
          (rest.flatMap fun item => nameBytes (name item))
        rw [if_neg empty, nameBytes, if_neg empty]
        refine ⟨?_, ?_⟩
        · simp only [List.length_cons, List.length_append]
          omega
        · simpa using found
    · have next : front.length + 1 + (nameBytes (name first)).length =
          (front ++ nameBytes (name first)).length + 1 := by
        rw [List.length_append]
        omega
      rw [next] at later
      have found := ih _ others later
      rwa [List.append_assoc] at found

/-- Each name of a table is found at its place. -/
theorem textAt_nameTable {items : List α}
    (unbroken : ∀ item ∈ items, '\x00' ∉ (name item).toList) {place : Nat} {item : α}
    (member : (place, item) ∈ withPlaces name 1 items) :
    place < (nameTable name items).length ∧
      Bytes.textAt (nameTable name items).toArray place = name item :=
  textAt_withPlaces [] unbroken member

end Places

end Footprint
