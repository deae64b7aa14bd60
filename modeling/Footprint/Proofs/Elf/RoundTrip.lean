import Footprint.Proofs.Elf.Writer
import Footprint.Proofs.Symbol
import Mathlib.Data.Nat.Bitwise

/-! Parsing the file of a layout gives back what the layout was made from. -/

namespace Footprint.Elf

/-- A name is kept if it is not the empty one. -/
theorem not_isEmpty (name : String) : (!name.isEmpty) = decide (name ≠ "") := by
  -- Both sides test whether there is a character.
  by_cases empty : name = ""
  · rw [empty]
    rfl
  · have filled : name.isEmpty = false := by
      rw [← Bool.not_eq_true, String.isEmpty_iff]
      exact empty
    rw [filled, decide_eq_true empty]
    rfl

/-- A section takes memory if the second lowest of its flags is set. -/
theorem allocated_eq (flags : UInt64) :
    (flags &&& Section.allocated != 0) = flags.toNat.testBit 1 := by
  -- A mask of one bit leaves that bit at its place.
  have number : (flags &&& Section.allocated).toNat = (flags.toNat.testBit 1).toNat * 2 ^ 1 := by
    rw [UInt64.toNat_and]
    exact Nat.and_two_pow flags.toNat 1
  rw [Bool.eq_iff_iff, bne_iff_ne, ne_eq, ← UInt64.toNat_inj, number]
  cases flags.toNat.testBit 1 <;> decide

/-- Values that are found at all indices are found in order. -/
theorem mapM_range {α ε : Type} {read : Nat → Except ε α} {values : List α}
    (each : ∀ index value, values[index]? = some value → read index = .ok value) :
    (List.range values.length).mapM read = .ok values := by
  -- Behind the first value, each index is one less.
  induction values generalizing read with
  | nil => rfl
  | cons value values ih =>
    have first := each 0 value rfl
    have rest := ih fun index other there => each (index + 1) other there
    rw [List.length_cons, List.range_succ_eq_map, List.mapM_cons, first, List.mapM_map]
    change (List.range values.length).mapM (fun index => read (index + 1)) >>= _ = _
    rw [rest]
    rfl

section Records

variable {α : Type} {write : α → List UInt8} {size : Nat} {items : List α}

/-- A table of records takes up so many times their size. -/
theorem length_records (sized : ∀ item, (write item).length = size) (items : List α) :
    (items.flatMap write).length = items.length * size := by
  -- The sizes add up, and are all the same.
  have same : items.map (fun record => (write record).length) = items.map fun _ => size :=
    List.map_congr_left fun record _ => sized record
  rw [List.length_flatMap, same, List.map_const', List.sum_replicate_nat]

/-- The records of a table stand one after the other. -/
theorem slice_records (sized : ∀ item, (write item).length = size) {index : Nat} {item : α}
    (there : items[index]? = some item) :
    Bytes.slice (items.flatMap write).toArray (index * size) (index * size + size) =
      (write item).toArray := by
  obtain ⟨inside, here⟩ := List.getElem?_eq_some_iff.mp there
  -- The items in front of the one sought take up so many times the size.
  have split : items = items.take index ++ item :: items.drop (index + 1) := by
    rw [← here, List.getElem_cons_drop, List.take_append_drop]
  have front : ((items.take index).flatMap write).length = index * size := by
    rw [length_records sized, List.length_take, Nat.min_eq_left (Nat.le_of_lt inside)]
  rw [split, List.flatMap_append, List.flatMap_cons, ← front, ← sized item]
  exact Cursor.between_slice _ _ _

end Records

namespace Layout

variable (layout : Layout)

/-- The file carries each block. -/
theorem carries (block : Block) (member : block ∈ layout.blocks) : layout.data.Carries block :=
  Bytes.carries_lay layout.apart member (layout.inside block member)

/-- The file header reads back. -/
theorem header_data : Header.parse layout.data = .ok layout.header :=
  parse_header layout.headerFits rfl layout.padded (layout.carries _ List.mem_cons_self)

/-- The first section, the symbols and the two tables of names stand around the others. -/
theorem length_parts : layout.parts.length = layout.sections.length + 4 := by
  simp [Blueprint.parts]

/-- There are as many headers as sections. -/
theorem length_headers : layout.headers.length = layout.parts.length := by
  rw [Blueprint.headers, List.length_map, Blueprint.placed, length_withPlaces]

/-- A section header reads back. -/
theorem readAt_data {index : Nat} {header : SectionHeader}
    (there : layout.headers[index]? = some header) :
    SectionHeader.readAt layout.data layout.header index = .ok header := by
  have member := List.mem_of_getElem? there
  have carried := layout.carries ⟨layout.sectionHeaders.toNat +
    index * layout.sectionHeaderStride.toNat, header.bytes layout.class_⟩ (by
      apply List.mem_append_right
      exact List.mem_map.mpr ⟨(header, index), List.mem_zipIdx_iff_getElem?.mpr there, rfl⟩)
  have room := carried.inside
  have size := layout.addressable
  rw [Layout.data, Bytes.size_lay, Block.stop] at room
  -- A place inside the file is one that a word can tell.
  have addressable :
      layout.sectionHeaders.toNat + index * layout.sectionHeaderStride.toNat < 2 ^ 64 := by
    dsimp only at room
    omega
  rw [SectionHeader.readAt]
  change (if layout.sectionHeaders.toNat + index * layout.sectionHeaderStride.toNat < 2 ^ 64 then
    valueAt layout.data _ _ else _) = _
  rw [if_pos addressable]
  exact valueAt_of_carries (reads_sectionHeader (layout.headersFit header member)) carried

/-- The number of sections fits its field. -/
theorem toNat_sectionHeaderCount :
    layout.header.sectionHeaderCount.toNat = layout.parts.length := by
  have few := layout.few
  change (UInt16.ofNat layout.parts.length).toNat = _
  rw [UInt16.toNat_ofNat', Nat.mod_eq_of_lt (by omega)]

/-- All section headers read back in order. -/
theorem readAll_data :
    SectionHeader.readAll layout.data layout.header = .ok layout.headers.toArray := by
  have count := layout.toNat_sectionHeaderCount
  -- The first section is always there, so that the headers are looked for.
  have some_ : layout.header.sectionHeaderCount ≠ 0 := by
    intro zero
    rw [zero, length_parts] at count
    contradiction
  have wide : ¬ layout.header.sectionHeaderStride.toNat < layout.header.class_.sectionHeaderSize :=
    Nat.not_lt_of_le layout.stride
  have all := mapM_range fun index header there => layout.readAt_data there
  rw [length_headers] at all
  rw [SectionHeader.readAll, if_neg some_]
  simp only [if_neg wide, count, all, Bind.bind, Except.bind, Pure.pure, Except.pure]

/-- The sections keep their order. -/
theorem map_snd_placed : layout.placed.map Prod.snd = layout.parts := map_snd_withPlaces 1 _

/-- The header of each section has its index. -/
theorem getElem?_headers {index : Nat} {part : Part} (there : layout.parts[index]? = some part) :
    ∃ place, layout.headers[index]? = some (part.header place) := by
  -- The headers and the sections are made from the same list, place by place.
  rw [← layout.map_snd_placed, List.getElem?_map] at there
  obtain ⟨⟨place, _⟩, found, rfl⟩ := Option.map_eq_some_iff.mp there
  refine ⟨place, ?_⟩
  rw [Blueprint.headers, List.getElem?_map, found]
  rfl

/-- A view of the sections with the places of their names finds what the sections themselves do. -/
theorem find?_placed {β : Type} (view : Nat × Part → β) (test : β → Bool) (own : Part → Bool)
    (agree : ∀ place part, test (view (place, part)) = own part) :
    (layout.placed.map view).find? test = none ∧ layout.parts.find? own = none ∨
      ∃ place part, (place, part) ∈ layout.placed ∧
        (layout.placed.map view).find? test = some (view (place, part)) ∧
        layout.parts.find? own = some part := by
  have tests : test ∘ view = own ∘ Prod.snd := by
    funext ⟨place, part⟩
    exact agree place part
  -- Both look for the first placed section that passes the same test.
  have viewed : (layout.placed.map view).find? test =
      (layout.placed.find? (own ∘ Prod.snd)).map view := by
    rw [List.find?_map, tests]
  have same : layout.parts.find? own = (layout.placed.find? (own ∘ Prod.snd)).map Prod.snd := by
    rw [← List.find?_map, map_snd_placed]
  rw [viewed, same]
  cases found : layout.placed.find? (own ∘ Prod.snd) with
  | none => exact .inl ⟨rfl, rfl⟩
  | some pair => exact .inr ⟨pair.1, pair.2, List.mem_of_find?_eq_some found, rfl, rfl⟩

/-- The stored bytes of a section are its contents. -/
theorem contents?_data {part : Part} (member : part ∈ layout.parts) {bytes : List UInt8}
    (stored : part.bytes? = some bytes) (place : Nat) :
    (part.header place).contents? layout.data = some bytes.toArray := by
  have carried := layout.carries ⟨part.offset.toNat, bytes⟩ (by
    apply List.mem_append_left
    apply List.mem_cons_of_mem
    exact List.mem_filterMap.mpr ⟨part, member, by rw [stored]; rfl⟩)
  have room := carried.inside
  have same := carried.same
  have addressable := layout.addressable
  have total : layout.data.size = layout.fileSize := Bytes.size_lay _ _ _
  -- The bytes are no more than those of the file, so that the size field tells how many they are.
  have size : part.size.toNat = bytes.length := by
    rw [Part.bytes?] at stored
    rw [Part.size]
    cases told : part.contents with
    | stored own =>
      rw [told] at stored
      obtain rfl := Option.some.inj stored
      simp only [Block.stop] at room
      simp only [UInt64.toNat_ofNat']
      exact Nat.mod_eq_of_lt (by omega)
    | absent size =>
      rw [told] at stored
      contradiction
  rw [SectionHeader.contents?, Part.header]
  simp only [Block.stop, ← size] at room same
  simp only [if_pos room, same]

/-- The names are those of the sections. -/
theorem names_eq : layout.names = layout.parts.map (·.name) := by
  -- The first section has the empty name.
  simp [Blueprint.names, Blueprint.parts, Part.null, Blueprint.symbolPart,
    Blueprint.symbolNamePart, Blueprint.sectionNamePart]

/-- The names are those of the placed sections. -/
theorem names_placed : layout.names = layout.placed.map fun pair => pair.2.name := by
  rw [names_eq, ← map_snd_placed, List.map_map]
  rfl

/-- The name of a section is found at its place. -/
theorem textAt_names {place : Nat} {part : Part} (member : (place, part) ∈ layout.placed) :
    Bytes.textAt (nameTable id layout.names).toArray (part.header place).name.toNat = part.name := by
  have table :
      nameTable id layout.names = nameTable (fun part : Part => part.name) layout.parts := by
    rw [names_eq, nameTable, nameTable, List.flatMap_map]
    rfl
  have short := layout.shortSectionNames
  have unbroken : ∀ part ∈ layout.parts, '\x00' ∉ part.name.toList := by
    intro part inside
    apply layout.namedSections
    rw [names_eq]
    exact List.mem_map_of_mem inside
  obtain ⟨within, found⟩ := textAt_nameTable unbroken member
  -- The place is inside the table, so that its field holds it.
  have number : (part.header place).name.toNat = place := by
    rw [table] at short
    change (UInt32.ofNat place).toNat = place
    rw [UInt32.toNat_ofNat', Nat.mod_eq_of_lt (by omega)]
  rw [table, number, found]

/-- The names of the sections read back in order. -/
theorem sectionNames_data :
    Elf.sectionNames layout.data layout.header layout.headers.toArray =
      .ok layout.names.toArray := by
  have few := layout.few
  have counted := layout.length_parts
  -- The file header tells the index of the last section, which holds the names.
  have index : layout.header.nameTable.toNat = layout.sections.length + 3 := by
    change (UInt16.ofNat (layout.sections.length + 3)).toNat = _
    rw [UInt16.toNat_ofNat', Nat.mod_eq_of_lt (by omega)]
  have there : layout.parts[layout.sections.length + 3]? = some layout.sectionNamePart := by
    simp [Blueprint.parts]
  obtain ⟨place, found⟩ := layout.getElem?_headers there
  have contents := layout.contents?_data (List.mem_of_getElem? there) rfl place
  rw [Elf.sectionNames, index, List.getElem?_toArray, found]
  dsimp only
  rw [contents]
  -- Each header finds the name of its own section.
  have each : layout.headers.map (fun header =>
      Bytes.textAt (nameTable id layout.names).toArray header.name.toNat) = layout.names := by
    refine Eq.trans ?_ layout.names_placed.symm
    rw [Blueprint.headers, List.map_map]
    exact List.map_congr_left fun pair member => layout.textAt_names member
  simp only [List.map_toArray]
  exact congrArg (fun names : List String => Except.ok names.toArray) each

/-- The first section that holds symbols is the one that was written. -/
theorem find?_symbolTable :
    ∃ place, layout.headers.find? SectionHeader.isSymbolTable =
      some (layout.symbolPart.header place) := by
  let symbolic (part : Part) : Bool := SectionHeader.symbolTableTypes.contains part.type
  -- Neither the first section nor those in front of the symbols hold any.
  have first : layout.parts.find? symbolic = some layout.symbolPart := by
    have before : layout.sections.find? symbolic = none := by
      rw [List.find?_eq_none]
      intro part member holds
      exact layout.plain part member (List.contains_iff_mem.mp holds)
    have here : symbolic layout.symbolPart = true := List.contains_iff_mem.mpr layout.symbolic
    rw [Blueprint.parts, List.cons_append, List.find?_cons_of_neg (by decide), List.find?_append,
      before, List.find?_cons_of_pos here, Option.none_or]
  rcases layout.find?_placed (fun pair => pair.2.header pair.1) SectionHeader.isSymbolTable symbolic
      (fun _ _ => rfl) with ⟨_, none⟩ | ⟨place, part, _, found, own⟩
  · rw [first] at none
    contradiction
  · rw [first] at own
    obtain rfl := Option.some.inj own
    exact ⟨place, found⟩

/-- The symbol table and the names of its symbols are found. -/
theorem symbolTable?_data :
    symbolTable? layout.data layout.headers.toArray =
      .ok (some ((layout.entries.flatMap (SymbolEntry.bytes layout.class_)).toArray,
        (nameTable SymbolDraft.name layout.symbols).toArray)) := by
  have few := layout.few
  have counted := layout.length_parts
  obtain ⟨place, found⟩ := layout.find?_symbolTable
  have here : layout.symbolPart ∈ layout.parts := by
    simp [Blueprint.parts]
  have table := layout.contents?_data here rfl place
  -- The link of the symbol table is the index of the section behind it.
  have link : (layout.symbolPart.header place).link.toNat = layout.sections.length + 2 := by
    change (UInt32.ofNat (layout.sections.length + 2)).toNat = _
    rw [UInt32.toNat_ofNat', Nat.mod_eq_of_lt (by omega)]
  have there : layout.parts[layout.sections.length + 2]? = some layout.symbolNamePart := by
    simp [Blueprint.parts]
  obtain ⟨next, linked⟩ := layout.getElem?_headers there
  have names := layout.contents?_data (List.mem_of_getElem? there) rfl next
  rw [symbolTable?, List.find?_toArray, found]
  dsimp only
  simp only [table, link, List.getElem?_toArray, linked, names]
  rfl

/-- The entries of the symbol table read back in order. -/
theorem entries_data :
    SymbolEntry.readAll layout.class_
        (layout.entries.flatMap (SymbolEntry.bytes layout.class_)).toArray =
      .ok layout.entries := by
  -- The entries fill their section, and each is read from its own slice of it.
  have sized (entry : SymbolEntry) : (entry.bytes layout.class_).length =
      layout.class_.symbolEntrySize := length_symbolEntry entry
  have positive : 0 < layout.class_.symbolEntrySize := by
    cases layout.class_ <;> decide
  have count : (layout.entries.flatMap (SymbolEntry.bytes layout.class_)).toArray.size /
      layout.class_.symbolEntrySize = layout.entries.length := by
    rw [List.size_toArray, length_records sized, Nat.mul_div_cancel _ positive]
  rw [SymbolEntry.readAll, count]
  apply mapM_range
  intro index entry there
  have fits := layout.entriesFit entry (List.mem_of_getElem? there)
  have alone : Cursor.between [] (entry.bytes layout.class_ ++ []) =
      .ofBytes (entry.bytes layout.class_).toArray := by
    simp [Cursor.between, Cursor.ofBytes]
  have read := reads_symbolEntry fits [] []
  rw [alone] at read
  rw [SymbolEntry.readAt, slice_records sized there, read]

/-- The entry of a symbol that has a size and a name gives the symbol, and any other entry none. -/
theorem symbol?_entry {place : Nat} {draft : SymbolDraft}
    (member : (place, draft) ∈ withPlaces SymbolDraft.name 1 layout.symbols) :
    (draft.entry place).symbol? (nameTable SymbolDraft.name layout.symbols).toArray
        layout.names.toArray =
      if draft.counts then some (layout.symbol draft) else none := by
  have short := layout.shortSymbolNames
  obtain ⟨within, found⟩ := textAt_nameTable layout.namedSymbols member
  -- The entry tells the name by its place, and the section by its index.
  have number : (draft.entry place).name.toNat = place := by
    change (UInt32.ofNat place).toNat = place
    rw [UInt32.toNat_ofNat', Nat.mod_eq_of_lt (by omega)]
  have area : SymbolEntry.sectionName? layout.names.toArray draft.sectionIndex =
      layout.sectionName? draft.sectionIndex := by
    simp only [SymbolEntry.sectionName?, Blueprint.sectionName?, List.getElem?_toArray,
      not_isEmpty]
  have dropped : (draft.entry place).size = 0 ∨ draft.name.isEmpty = true ↔ ¬ draft.counts := by
    rw [SymbolDraft.counts, String.isEmpty_iff]
    simp only [decide_eq_true_eq, SymbolDraft.entry]
    tauto
  rw [SymbolEntry.symbol?, number, found]
  by_cases counts : draft.counts
  · rw [if_neg (mt dropped.mp (not_not_intro counts)), if_pos counts]
    simp only [Blueprint.symbol, ← area]
    rfl
  · rw [if_pos (dropped.mpr counts), if_neg counts]

/-- The symbols that count, as they were meant. -/
theorem filterMap_entries :
    layout.entries.filterMap (SymbolEntry.symbol?
        (nameTable SymbolDraft.name layout.symbols).toArray layout.names.toArray) =
      (layout.symbols.filter SymbolDraft.counts).map layout.symbol := by
  -- The first entry has no size, and each other one stands for its own symbol.
  have none : SymbolEntry.null.symbol? (nameTable SymbolDraft.name layout.symbols).toArray
      layout.names.toArray = none := rfl
  let meant (draft : SymbolDraft) : Option Symbol :=
    if draft.counts then some (layout.symbol draft) else Option.none
  have each : (withPlaces SymbolDraft.name 1 layout.symbols).filterMap (fun pair =>
        (pair.2.entry pair.1).symbol? (nameTable SymbolDraft.name layout.symbols).toArray
          layout.names.toArray) =
      (withPlaces SymbolDraft.name 1 layout.symbols).filterMap (meant ∘ Prod.snd) :=
    List.filterMap_congr fun pair member => layout.symbol?_entry member
  have kept : layout.symbols.filterMap meant =
      (layout.symbols.filter SymbolDraft.counts).map layout.symbol := by
    rw [← List.filterMap_eq_map, List.filterMap_filter]
    rfl
  rw [Blueprint.entries, List.filterMap_cons_none none, List.filterMap_map]
  refine Eq.trans each ?_
  rw [← List.filterMap_map, map_snd_withPlaces, kept]

/-- The symbols are those that count, larger ones first. -/
theorem symbols?_data :
    symbols? layout.data layout.header layout.headers.toArray layout.names.toArray =
      .ok (some (Symbol.largestFirst
        ((layout.symbols.filter SymbolDraft.counts).map layout.symbol))) := by
  -- The table is found, its entries are read, and those that count are sorted.
  have entries : SymbolEntry.readAll layout.header.class_ _ = _ := layout.entries_data
  rw [symbols?, symbolTable?_data]
  simp only [Bind.bind, Except.bind, entries, filterMap_entries, Pure.pure, Except.pure]

/-- The image of a layout. -/
def image : Image where
  data := layout.data
  header := layout.header
  sectionHeaders := layout.headers.toArray
  sectionNames := layout.names.toArray
  symbols? := some (Symbol.largestFirst
    ((layout.symbols.filter SymbolDraft.counts).map layout.symbol))

/-- The file of a layout parses to its image. -/
theorem parse_data : Image.parse layout.data = .ok layout.image := by
  simp only [Image.parse, header_data, readAll_data, sectionNames_data, symbols?_data, Bind.bind,
    Except.bind, Pure.pure, Except.pure, image]

/-- The headers with their names are those of the sections. -/
theorem namedHeaders_image :
    layout.image.namedHeaders =
      layout.placed.map fun pair => (pair.2.header pair.1, pair.2.name) := by
  rw [Image.namedHeaders, image, names_placed]
  simp [Blueprint.headers, List.zip_map']

/-- The sections of the image are those that have a name. -/
theorem sections_image :
    layout.image.sections = (layout.parts.filter (·.name ≠ "")).map Part.area := by
  let named (part : Part) : Bool := part.name ≠ ""
  -- Both keep the sections with a name, and show the same of each.
  have kept : (fun pair : SectionHeader × String => !pair.2.isEmpty) ∘
      (fun pair : Nat × Part => (pair.2.header pair.1, pair.2.name)) = named ∘ Prod.snd := by
    funext pair
    exact not_isEmpty pair.2.name
  have meant : (fun pair : SectionHeader × String => pair.1.named pair.2) ∘
      (fun pair : Nat × Part => (pair.2.header pair.1, pair.2.name)) = Part.area ∘ Prod.snd := by
    funext pair
    simp [SectionHeader.named, Part.header, Part.area, allocated_eq]
  change (layout.image.namedHeaders.filter fun pair => !pair.2.isEmpty).map
    (fun pair => pair.1.named pair.2) = _
  rw [namedHeaders_image, List.filter_map, List.map_map, kept, meant, ← List.map_map,
    ← List.filter_map, map_snd_placed]

/-- A section has bytes in the file unless its type says otherwise. -/
theorem type_eq_noBits_iff {part : Part} (member : part ∈ layout.parts) :
    part.type = Section.noBits ↔ part.bytes? = none := by
  -- The sections that hold symbols and names have bytes and no such type.
  have table : layout.symbolTableType ≠ Section.noBits := by
    intro same
    have symbolic := layout.symbolic
    rw [same] at symbolic
    revert symbolic
    decide
  have names : Blueprint.nameTableType ≠ Section.noBits := by
    decide
  simp only [Blueprint.parts, List.cons_append, List.mem_cons, List.mem_append, List.not_mem_nil,
    or_false] at member
  -- Only the sections that were given may be without bytes.
  rcases member with rfl | given | rfl | rfl | rfl
  · exact iff_of_false (by decide) (Option.some_ne_none _)
  · exact layout.typed part given
  · exact iff_of_false table (Option.some_ne_none _)
  · exact iff_of_false names (Option.some_ne_none _)
  · exact iff_of_false names (Option.some_ne_none _)

/-- The contents of a section are those of the first one with its name. -/
theorem sectionData_image (name : String) :
    layout.image.sectionData name =
      (((layout.parts.find? (·.name = name)).bind Part.bytes?).map List.toArray, []) := by
  let named (part : Part) : Bool := part.name = name
  rw [Image.sectionData, namedHeaders_image]
  rcases layout.find?_placed (fun pair => (pair.2.header pair.1, pair.2.name))
      (fun pair => pair.2 = name) named (fun _ _ => rfl) with
    ⟨missing, none⟩ | ⟨place, part, member, found, own⟩
  · rw [missing, none]
    rfl
  · have inside : part ∈ layout.parts := List.mem_of_find?_eq_some own
    rw [found, own]
    dsimp only
    cases stored : part.bytes? with
    | none =>
      have absent : (part.header place).type = Section.noBits :=
        (layout.type_eq_noBits_iff inside).mpr stored
      rw [if_pos absent, Option.bind_some, stored]
      rfl
    | some bytes =>
      have present : (part.header place).type ≠ Section.noBits := by
        intro absent
        rw [(layout.type_eq_noBits_iff inside).mp absent] at stored
        contradiction
      have contents : (part.header place).contents? layout.image.data = some bytes.toArray :=
        layout.contents?_data inside stored place
      rw [if_neg present, Option.bind_some, stored]
      simp only [contents]
      rfl

/-- A layout of a section without bytes, a symbol in it, and the tables that every image has. -/
example : ∃ layout : Layout, layout.names = ["", ".bss", "symbols", "names", "sections"] ∧
    (layout.symbols.map layout.symbol).map (·.sectionName?) = [some ".bss"] := by
  refine ⟨{
    class_ := .elf64, version := 1, osAbi := 0, abiVersion := 0, padding := List.replicate 7 0
    objectType := 2, machine := 62, objectVersion := 1, entry := 0x1000, programHeaders := 0
    flags := 0, size := 64, programHeaderStride := 0, programHeaderCount := 0
    sections := [{
      name := ".bss", flags := 3, address := 0x2000, info := 0, alignment := 4, entrySize := 0
      offset := 64, type := Section.noBits, link := 0, contents := .absent 16 }]
    symbolTable := ⟨"symbols", 0, 0, 1, 8, 24, 64⟩
    symbolTableType := 2
    symbolNames := ⟨"names", 0, 0, 0, 1, 0, 112⟩
    sectionNames := ⟨"sections", 0, 0, 0, 1, 0, 128⟩
    symbols := [⟨"counter", 0x2000, 8, 1, 0, 1⟩]
    sectionHeaders := 192
    sectionHeaderStride := 64
    fileSize := 512
    filler := fun _ => 0
    padded := by decide
    few := by decide
    stride := by decide
    symbolic := by decide
    plain := by decide
    typed := by decide
    namedSections := by decide
    namedSymbols := by decide
    shortSectionNames := by decide +kernel
    shortSymbolNames := by decide +kernel
    headerFits := ⟨trivial, trivial, trivial⟩
    headersFit := fun _ _ => ⟨trivial, trivial, trivial, trivial, trivial, trivial⟩
    entriesFit := fun _ _ => ⟨trivial, trivial⟩
    addressable := by decide
    inside := by decide +kernel
    apart := List.Pairwise.imp Block.apart_of_beside (by decide +kernel) }, ?_⟩
  decide +kernel

end Layout

end Footprint.Elf
