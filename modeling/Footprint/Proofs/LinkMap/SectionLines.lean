import Footprint.Proofs.LinkMap.Retention

/-! Which names and addresses the lines behind the heading put into a link map, and when those are the
names of sections. -/

namespace Footprint.LinkMap

/-- A machine word has the value that it is made from. -/
theorem word?_eq_some_iff {value : Nat} {word : UInt64} :
    word? value = some word ↔ value = word.toNat := by
  rw [word?]
  split
  · rename_i fits
    rw [Option.some.injEq, ← UInt64.toNat_inj, UInt64.toNat_ofNat', Nat.mod_eq_of_lt fits]
  · rename_i large
    have bound := word.toNat_lt
    simp only [reduceCtorEq, false_iff]
    omega

/-- A symbol with a size whose numbers fit machine words is stated under a name and an address. -/
def Placement.States (placement : Placement) (name : String) (address : UInt64) : Prop :=
  .ofList placement.name = name ∧ spelled placement.address = address.toNat ∧
    0 < spelled placement.size ∧ spelled placement.size < 2 ^ 64

instance (placement : Placement) (name : String) (address : UInt64) :
    Decidable (placement.States name address) :=
  inferInstanceAs (Decidable (_ ∧ _ ∧ _ ∧ _))

/-- A mention is stated under its name and its address. -/
theorem Placement.states_of_mention? {placement : Placement} {object? : Option String}
    {mention : Mention} (found : placement.mention? object? = some mention) :
    placement.States mention.name mention.address := by
  simp only [mention?, Option.bind_eq_bind, Option.bind_eq_some_iff, word?_eq_some_iff] at found
  obtain ⟨address, addressed, size, sized, kept⟩ := found
  split at kept
  · contradiction
  · rename_i some_
    obtain rfl := Option.some.inj kept
    have positive := UInt64.lt_iff_toNat_lt.mp (UInt64.pos_iff_ne_zero.mpr some_)
    exact ⟨rfl, addressed, sized ▸ positive, sized ▸ size.toNat_lt⟩

/-- A link map has a name and an address if a line behind the heading is a symbol that states
them. -/
theorem mem_parse_iff (text name : String) (address : UInt64) :
    (∃ symbol ∈ (parse text).1.symbols, symbol.name = name ∧ symbol.address = address) ↔
      ∃ line ∈ listing (Text.lines text.toList), ∃ placement,
        IsSymbol line placement ∧ placement.States name address := by
  constructor
  · -- A symbol of the map is a mention, and each mention is read off one of the lines.
    rintro ⟨symbol, kept, rfl, rfl⟩
    obtain ⟨mention, largest, rfl⟩ := (keeps_parse text).chosen symbol kept
    obtain ⟨index, _, found⟩ := List.mem_filterMap.mp (List.mem_of_mem_filter largest.mem)
    obtain ⟨placement, placed, stated⟩ := Option.bind_eq_some_iff.mp found
    obtain ⟨line, there, read⟩ := Option.bind_eq_some_iff.mp placed
    exact ⟨line, List.mem_of_getElem? there, placement, placement?_eq_some_iff.mp read,
      Placement.states_of_mention? stated⟩
  · rintro ⟨line, listed, placement, isSymbol, rfl, addressed, positive, fits⟩
    obtain ⟨earlier, later, split⟩ := List.append_of_mem listed
    -- The size fits a machine word, so that the line is a mention and not passed over.
    have sized : spelled placement.size = (UInt64.ofNat (spelled placement.size)).toNat := by
      rw [UInt64.toNat_ofNat', Nat.mod_eq_of_lt fits]
    have some_ : UInt64.ofNat (spelled placement.size) ≠ 0 := by
      rw [← UInt64.pos_iff_ne_zero, UInt64.lt_iff_toNat_lt, ← sized]
      exact positive
    have mentioned : ⟨.ofList placement.name, address, .ofNat (spelled placement.size),
        inForce? earlier⟩ ∈ mentions (listing (Text.lines text.toList)) := by
      rw [split]
      apply mem_mentions
      rw [placement?_eq_some_iff.mpr isSymbol]
      exact Placement.mention?_eq addressed sized some_ _
    obtain ⟨symbol, kept, named, placed, _⟩ := symbol_of_mention mentioned
    exact ⟨symbol, kept, named, placed⟩

/-- Whether a name starts with a period, as the names of sections do. -/
def IsDotted (name : String) : Prop := name.toList.head? = some '.'

instance (name : String) : Decidable (IsDotted name) :=
  inferInstanceAs (Decidable (name.toList.head? = some '.'))

/-- A link map has a name that starts with a period under an address only if an indented line behind
the heading is a symbol that states them, and then it has: no line that is not indented puts the name
of a section into it. -/
theorem mem_parse_of_dotted_iff (text : String) {name : String} (dotted : IsDotted name)
    (address : UInt64) :
    (∃ symbol ∈ (parse text).1.symbols, symbol.name = name ∧ symbol.address = address) ↔
      ∃ line ∈ listing (Text.lines text.toList), ∃ placement rest,
        Indented line placement rest ∧ (∀ char ∈ rest.head?, isHexDigit char = false) ∧
          placement.States name address := by
  rw [mem_parse_iff]
  refine exists_congr fun line => and_congr_right fun _ => exists_congr fun placement => ?_
  constructor
  · rintro ⟨⟨parts, stops⟩ | ⟨parts, period, stops⟩, states⟩
    · exact ⟨_, parts, stops, states⟩
    · -- The name on a line that is not indented starts with no period.
      obtain ⟨rfl, _⟩ := states
      rw [IsDotted, String.toList_ofList] at dotted
      exact absurd dotted period
  · rintro ⟨rest, parts, stops, states⟩
    exact ⟨.indented parts stops, states⟩

/-- Of two lines of sections, only the indented one puts its name into the link map. -/
theorem mem_parse_of_dotted_iff_indented :
    let text := "Symbol File\n .text 0x100 0x40 a.o\n.data 0x200 0x10\n"
    (∃ symbol ∈ (parse text).1.symbols, symbol.name = ".text" ∧ symbol.address = 0x100) ∧
      ¬ ∃ symbol ∈ (parse text).1.symbols, symbol.name = ".data" ∧ symbol.address = 0x200 := by
  intro text
  have listed : listing (Text.lines text.toList) =
      [" .text 0x100 0x40 a.o".toList, ".data 0x200 0x10".toList] := by decide +kernel
  have first : indentedPlacement? " .text 0x100 0x40 a.o".toList =
      some ⟨".text".toList, "100".toList, "40".toList⟩ := by decide +kernel
  have second : indentedPlacement? ".data 0x200 0x10".toList = none := by decide +kernel
  constructor
  · rw [mem_parse_of_dotted_iff text (by decide), listed]
    obtain ⟨rest, parts, stops⟩ := indented_of_indentedPlacement? first
    exact ⟨_, List.mem_cons_self, _, rest, parts, stops, by decide +kernel⟩
  · rw [mem_parse_of_dotted_iff text (by decide), listed]
    rintro ⟨line, member, placement, rest, parts, stops, named, _⟩
    have read := indentedPlacement?_of_indented parts
    rcases List.mem_cons.mp member with rfl | member
    · -- The first line has another name.
      obtain ⟨name, _⟩ := Placement.mk.inj (Option.some.inj (first.symm.trans read))
      rw [← name] at named
      exact absurd named (by decide)
    · rw [List.mem_singleton.mp member, second] at read
      contradiction

/-- An indented line of a section puts the name of the section into the link map. -/
theorem parse_keeps_indented_section :
    let text := "Symbol File\n .text 0x08000100 0x40 build/main.o\n main 0x08000100 0x40\n"
    ∃ symbol ∈ (parse text).1.symbols, IsDotted symbol.name := by
  intro text
  have mentioned : mentions (listing (Text.lines text.toList)) =
      [⟨".text", 0x08000100, 0x40, none⟩, ⟨"main", 0x08000100, 0x40, none⟩] := by decide +kernel
  have member : ⟨".text", 0x08000100, 0x40, none⟩ ∈ mentions (listing (Text.lines text.toList)) := by
    rw [mentioned]
    exact List.mem_cons_self
  obtain ⟨symbol, kept, named, _⟩ := symbol_of_mention member
  refine ⟨symbol, kept, ?_⟩
  rw [named]
  decide

end Footprint.LinkMap
