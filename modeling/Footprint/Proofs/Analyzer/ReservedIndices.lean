import Footprint.Proofs.Analyzer.Sections
import Footprint.Proofs.Elf.Entries

/-! Symbols whose entries carry a reserved section index: they are seen in no section, unless an image
has so many headers that one of them has the index. -/

namespace Footprint

/-- Values that give nothing that is kept may be left out first. -/
theorem filter_filterMap_filter {α β : Type} {values : List α} {give : α → Option β}
    {keep : β → Bool} {useful : α → Bool}
    (idle : ∀ value, useful value = false → ∀ given, give value = some given → keep given = false) :
    ((values.filter useful).filterMap give).filter keep = (values.filterMap give).filter keep := by
  rw [List.filter_filterMap, List.filter_filterMap, List.filterMap_filter]
  refine List.filterMap_congr fun value _ => ?_
  cases used : useful value with
  | true => rfl
  | false =>
    cases given : give value with
    | none => rfl
    | some other => simp [Option.filter, idle value used other given]

namespace Elf

/-- The first of the reserved section indices, which reach up to the largest one. -/
def firstReserved : UInt16 := 0xFF00

namespace Tables

variable (tables : Tables)

/-- Whether the section index of an entry is zero, or is a reserved one that no header has. -/
def Nowhere (entry : SymbolEntry) : Prop :=
  entry.sectionIndex = 0 ∨
    firstReserved ≤ entry.sectionIndex ∧ tables.count ≤ entry.sectionIndex.toNat

instance (entry : SymbolEntry) : Decidable (tables.Nowhere entry) :=
  inferInstanceAs (Decidable (_ ∨ _))

variable {tables}

/-- Where all headers come before the reserved indices, none of them has a reserved index. -/
theorem nowhere_iff (few : tables.count ≤ 0xFF00) (entry : SymbolEntry) :
    tables.Nowhere entry ↔ entry.sectionIndex = 0 ∨ firstReserved ≤ entry.sectionIndex := by
  refine or_congr_right (and_iff_left_of_imp fun reserved => ?_)
  have late := UInt16.le_iff_toNat_le.mp reserved
  have first : firstReserved.toNat = 0xFF00 := rfl
  omega

/-- The symbol of an entry whose index no header has lies in no section. -/
theorem sectionName?_of_nowhere {table index : Nat} {symbol : Symbol}
    (found : tables.symbol? table index = some symbol)
    (nowhere : tables.Nowhere (tables.entry table index)) : symbol.sectionName? = none := by
  simp only [symbol?] at found
  split at found
  · contradiction
  · obtain rfl := Option.some.inj found
    -- A section is told only by an index that is positive and below the number of headers.
    have headless : ¬ (0 < (tables.entry table index).sectionIndex.toNat ∧
        (tables.entry table index).sectionIndex.toNat < tables.count ∧
          tables.name (tables.entry table index).sectionIndex.toNat ≠ "") := by
      rintro ⟨positive, below, _⟩
      rcases nowhere with zero | ⟨_, past⟩
      · rw [zero] at positive
        exact absurd positive (by decide)
      · omega
    exact if_neg headless

end Tables

end Elf

namespace Analyzer

open Footprint.Symbol

/-- The symbol of an entry whose section index is zero, or is a reserved one that no header has, lies
in no section; where an image has no more headers than there are indices in front of the reserved ones,
these are all entries with the index zero or a reserved one. The symbols in a section are those of
other entries, and each section with symbols is that of the symbol of another entry. -/
theorem reserved_indices_hold_no_symbol {files : Files} {sources : Sources} {analyzer : Analyzer}
    {events : List Event} {image : Elf.Image} {table : Nat}
    (done : load files sources = .ok (analyzer, events)) (image? : analyzer.elf? = some image)
    (first : image.tables.FirstSymbols table) :
    let tables := image.tables
    let placed := (List.range (tables.entryCount table)).filter fun index =>
      ¬ tables.Nowhere (tables.entry table index)
    (tables.count ≤ 0xFF00 → ∀ entry, tables.Nowhere entry ↔
        entry.sectionIndex = 0 ∨ Elf.firstReserved ≤ entry.sectionIndex) ∧
      ∃ (own : List Symbol) (owning : List Section) (listed : String → List Symbol),
        image.symbols = .ok own ∧ own.Perm (tables.symbols table) ∧
        (∀ index symbol, tables.symbol? table index = some symbol →
          tables.Nowhere (tables.entry table index) → symbol.sectionName? = none) ∧
        (∀ name, analyzer.symbolsInSection name = .ok (listed name)) ∧
        (∀ name, (listed name).Perm
          ((placed.filterMap (tables.symbol? table)).filter (·.sectionName? = some name))) ∧
        analyzer.sectionsWithSymbols = .ok owning ∧
        ∀ area ∈ owning, ∃ index ∈ placed, ∃ symbol,
          tables.symbol? table index = some symbol ∧ symbol.sectionName? = some area.name := by
  intro tables placed
  obtain ⟨data, parsed⟩ := (loaded_of_load done).image image image?
  have own := Elf.symbols_of_firstSymbols parsed first
  have perm := (largestFirst_spec (tables.symbols table)).perm
  -- Only entries that are placed give a symbol that lies in a section.
  have idle (name : String) : ∀ index, decide (¬ tables.Nowhere (tables.entry table index)) = false →
      ∀ symbol, tables.symbol? table index = some symbol →
        decide (symbol.sectionName? = some name) = false := by
    intro index nowhere symbol found
    have none := Elf.Tables.sectionName?_of_nowhere found
      (Decidable.not_not.mp (of_decide_eq_false nowhere))
    simp [none]
  have inside (name : String) := (perm.filter (·.sectionName? = some name)).trans
    (List.Perm.of_eq (filter_filterMap_filter (idle name)).symm)
  refine ⟨Elf.Tables.nowhere_iff, _, _, _, own, perm,
    fun index symbol => Elf.Tables.sectionName?_of_nowhere, symbolsInSection_image image? own, inside,
    sectionsWithSymbols_image image? own, ?_⟩
  -- A section is listed for a symbol in it, which one of the placed entries gives.
  intro area member
  obtain ⟨_, some_⟩ := List.mem_filter.mp member
  obtain ⟨symbol, here⟩ := List.exists_mem_of_ne_nil _ (of_decide_eq_true some_)
  obtain ⟨among, named⟩ := List.mem_filter.mp ((inside area.name).mem_iff.mp here)
  obtain ⟨index, placed, found⟩ := List.mem_filterMap.mp among
  exact ⟨index, placed, symbol, found, of_decide_eq_true named⟩

end Analyzer

namespace Elf

section Crowded

/-- The start of an image: its file header, which counts 0xFFF2 section headers, the entries of two
symbols with reserved section indices, all names, and the headers of the sections for these. -/
def crowdedFront : Bytes :=
  let file : Header := ⟨.elf32, 1, 1, 0, 0, 2, 40, 0, 0, 96, 0, 52, 0, 0, 40, 0xFFF2, 2⟩
  let entries : List SymbolEntry := [⟨1, 0x1000, 4, 1, 0, 0xFFF1⟩, ⟨3, 0x2000, 2, 1, 0, 0xFFF2⟩]
  let headers : List SectionHeader :=
    [⟨0, 0, 0, 0, 0, 0, 0, 0, 0, 0⟩, ⟨0, 2, 0, 0, 52, 32, 2, 0, 0, 0⟩,
      ⟨0, 3, 0, 0, 84, 12, 0, 0, 0, 0⟩]
  (file.identification (List.replicate 7 0) ++ file.fieldBytes 1 ++
    entries.flatMap (SymbolEntry.bytes .elf32) ++
    [0, 0x78, 0, 0x79, 0, 0x2E, 0x62, 0x73, 0x73, 0, 0, 0] ++
    headers.flatMap (SectionHeader.bytes .elf32)).toArray

/-- The last section header, whose index is that of absolute symbols. -/
def crowdedLast : Bytes :=
  (SectionHeader.bytes .elf32 ⟨5, 8, 3, 0x20000000, 0, 64, 0, 0, 0, 0⟩).toArray

/-- An image with section headers between its first ones and the last one. -/
def crowded (between : Bytes) : Bytes := crowdedFront ++ between ++ crowdedLast

/-- The absolute symbol, which is told to lie in the section of the last header. -/
def absoluteSymbol : Symbol := ⟨"x", .object, 0x1000, 4, some ".bss", none, none, none⟩

/-- The common symbol, whose index is that of no header. -/
def commonSymbol : Symbol := ⟨"y", .object, 0x2000, 2, none, none, none, none⟩

/-- Section headers of nothing but zeros, which fill the place between the first ones and the last
one. -/
def emptyHeaders : Bytes := Array.replicate (0xFFEE * 40) 0

variable {between : Bytes}

/-- The tables of the image. -/
def crowdedTables (between : Bytes) : Tables := ⟨.elf32, crowded between⟩

/-- The start of the image takes 216 bytes. -/
theorem size_crowdedFront : crowdedFront.size = 216 := by decide +kernel

/-- The image ends with the last of its section headers. -/
theorem size_crowded (wide : between.size = 0xFFEE * 40) :
    (crowdedTables between).data.size = 96 + 0xFFF2 * 40 := by
  have last : crowdedLast.size = 40 := by decide +kernel
  rw [crowdedTables, crowded, Array.size_append, Array.size_append, size_crowdedFront, last, wide]

/-- The empty headers take as many bytes as they are wide. -/
theorem size_emptyHeaders : emptyHeaders.size = 0xFFEE * 40 := Array.size_replicate

/-- A slice of the start of the image does not reach behind it. -/
theorem slice_crowded {start stop : Nat} (inside : stop ≤ 216) :
    (crowdedTables between).data.slice start stop = crowdedFront.slice start stop := by
  rw [crowdedTables, crowded, Array.append_assoc]
  exact Bytes.slice_append_left (size_crowdedFront ▸ inside)

/-- A number at the start of the image does not reach behind it. -/
theorem number_crowded {place width : Nat} (inside : place + width ≤ 216) :
    (crowdedTables between).data.number place width = crowdedFront.number place width := by
  rw [Bytes.number, slice_crowded inside, Bytes.number]

/-- The class of the image has narrow addresses. -/
@[simp] theorem class_crowded : (crowdedTables between).class_ = .elf32 := rfl

/-- The file header places the section headers, one directly behind the other. -/
theorem told_crowded : (crowdedTables between).start = 96 ∧ (crowdedTables between).stride = 40 ∧
    (crowdedTables between).count = 0xFFF2 ∧ (crowdedTables between).nameTable = 2 := by
  simp (disch := decide) only [Tables.start, Tables.stride, Tables.count, Tables.nameTable,
    class_crowded, Class.width, number_crowded]
  decide +kernel

/-- The section headers stand in a row. -/
theorem place_crowded (index : Nat) : (crowdedTables between).place index = 96 + index * 40 := by
  obtain ⟨start, stride, _⟩ := @told_crowded between
  rw [Tables.place, start, stride]

/-- The second section holds the symbols, and the third one all names. -/
theorem sections_crowded :
    (crowdedTables between).type 0 = 0 ∧ (crowdedTables between).type 1 = 2 ∧
      (crowdedTables between).link 1 = 2 ∧ (crowdedTables between).offset 1 = 52 ∧
      (crowdedTables between).size 1 = 32 ∧ (crowdedTables between).offset 2 = 84 ∧
      (crowdedTables between).size 2 = 12 := by
  simp only [Tables.type, Tables.link, Tables.offset, Tables.size, place_crowded, class_crowded,
    Class.width]
  simp (disch := decide) only [number_crowded]
  decide +kernel

/-- The first section that holds symbols is the second one. -/
theorem first_crowded : (crowdedTables between).FirstSymbols 1 := by
  obtain ⟨_, _, count, _⟩ := @told_crowded between
  obtain ⟨none, symbols, _⟩ := @sections_crowded between
  refine ⟨by omega, .inl symbols, fun other earlier => ?_⟩
  -- The header in front of it is the one that stands for no section.
  obtain rfl : other = 0 := by omega
  omega

/-- The image holds all that its headers place in it. -/
theorem sound_crowded (wide : between.size = 0xFFEE * 40) : (crowdedTables between).Sound := by
  obtain ⟨_, stride, count, nameTable⟩ := @told_crowded between
  obtain ⟨none, symbols, link, offset, size, offsetNames, sizeNames⟩ := @sections_crowded between
  have length := size_crowded wide
  refine ⟨⟨?_, ?_, ?_, ?_⟩, .inr ⟨?_, ?_⟩, ?_, ?_⟩
  -- The file header is told by the start of the image alone.
  · rw [slice_crowded (by decide)]
    decide +kernel
  · rw [number_crowded (by decide), class_crowded]
    decide +kernel
  · rw [number_crowded (by decide)]
    decide +kernel
  · rw [length, class_crowded]
    decide
  -- All section headers and all sections with contents end inside the image.
  · rw [stride, class_crowded]
    decide
  · intro index below
    rw [place_crowded, length, class_crowded, Class.sectionHeaderSize]
    omega
  · intro _
    rw [nameTable, Tables.stop_eq, offsetNames, sizeNames, length]
    decide
  · intro index first
    obtain rfl := first.unique first_crowded
    rw [link, Tables.stop_eq, Tables.stop_eq, offset, size, offsetNames, sizeNames, length,
      count]
    decide

/-- The names in the image. -/
theorem text_crowded (offset : Nat) : (crowdedTables between).text 2 offset =
    Text.Utf8.decode (((crowdedFront.slice 84 96).toList.drop offset).takeWhile (· ≠ 0)).toArray := by
  obtain ⟨_, _, _, _, _, offsetNames, sizeNames⟩ := @sections_crowded between
  rw [Tables.text, Tables.contents, Tables.stop_eq, offsetNames, sizeNames,
    slice_crowded (by decide)]

/-- The section with the index of absolute symbols has a name. -/
theorem name_crowded (wide : between.size = 0xFFEE * 40) :
    (crowdedTables between).sectionName? 0xFFF1 = some ".bss" := by
  obtain ⟨_, _, count, nameTable⟩ := @told_crowded between
  have size : (crowdedFront ++ between).size = 96 + 0xFFF1 * 40 := by
    rw [Array.size_append, size_crowdedFront, wide]
  -- Its header is the last part of the image.
  have place : (crowdedTables between).data.number (96 + 0xFFF1 * 40) 4 = 5 := by
    have behind := Bytes.number_append_right (crowdedFront ++ between) crowdedLast 0 4
    rw [size, Nat.add_zero] at behind
    exact behind.trans (by decide +kernel)
  have name : (crowdedTables between).name 0xFFF1 = ".bss" := by
    rw [Tables.name, if_pos (by omega), nameTable, place_crowded, place, text_crowded]
    decide +kernel
  rw [Tables.sectionName?, name, count]
  decide

/-- The entries of the absolute and of the common symbol. -/
theorem entries_crowded :
    (crowdedTables between).entry 1 0 = ⟨1, 0x1000, 4, 1, 0, 0xFFF1⟩ ∧
      (crowdedTables between).entry 1 1 = ⟨3, 0x2000, 2, 1, 0, 0xFFF2⟩ := by
  obtain ⟨_, _, _, offset, _⟩ := @sections_crowded between
  simp only [Tables.entry, offset, class_crowded, SymbolEntry.told]
  simp (disch := decide) only [number_crowded, Class.symbolEntrySize]
  decide +kernel

/-- The entry of the absolute symbol names the section of the last header. -/
theorem absolute_crowded (wide : between.size = 0xFFEE * 40) :
    (crowdedTables between).symbol? 1 0 = some absoluteSymbol := by
  obtain ⟨_, _, link, _⟩ := @sections_crowded between
  have named : (crowdedTables between).text 2 1 = "x" := by
    rw [text_crowded]
    decide +kernel
  rw [Tables.symbol?, entries_crowded.1, link]
  dsimp only
  rw [show (1 : UInt32).toNat = 1 from rfl, named, show (0xFFF1 : UInt16).toNat = 0xFFF1 from rfl,
    name_crowded wide]
  decide

/-- The entry of the common symbol names no section. -/
theorem common_crowded : (crowdedTables between).symbol? 1 1 = some commonSymbol := by
  obtain ⟨_, _, count, _⟩ := @told_crowded between
  obtain ⟨_, _, link, _⟩ := @sections_crowded between
  have named : (crowdedTables between).text 2 3 = "y" := by
    rw [text_crowded]
    decide +kernel
  -- Its index is the number of headers, one past the last of them.
  have past : (crowdedTables between).sectionName? 0xFFF2 = none := by
    rw [Tables.sectionName?, if_neg (by omega)]
  rw [Tables.symbol?, entries_crowded.2, link]
  dsimp only
  rw [show (3 : UInt32).toNat = 3 from rfl, named, show (0xFFF2 : UInt16).toNat = 0xFFF2 from rfl,
    past]
  decide

/-- The symbol table holds the two symbols. -/
theorem symbols_crowded (wide : between.size = 0xFFEE * 40) :
    (crowdedTables between).symbols 1 = [absoluteSymbol, commonSymbol] := by
  obtain ⟨_, _, _, _, size, _⟩ := @sections_crowded between
  have count : (crowdedTables between).entryCount 1 = 2 := by
    rw [Tables.entryCount, size, class_crowded]
    rfl
  rw [Tables.symbols, count, show List.range 2 = [0, 1] from rfl,
    List.filterMap_cons_some (absolute_crowded wide), List.filterMap_cons_some common_crowded,
    List.filterMap_nil]

/-- The image is parsed. -/
theorem parse_crowded (wide : between.size = 0xFFEE * 40) :
    ∃ image, Image.parse (crowded between) = .ok image ∧ image.tables = crowdedTables between := by
  have sound := sound_crowded wide
  have bounded : (crowdedTables between).data.size < 2 ^ 64 := by
    rw [size_crowded wide]
    decide
  obtain ⟨image, settled⟩ := settled_parse (crowdedTables between) sound.class_ bounded
  have parsed := settled.accepts sound
  exact ⟨image, parsed, tables_of_parse sound.toIdentified parsed⟩

end Crowded

end Elf

namespace Analyzer

/-- A crowded image is loaded, and lists both of its symbols. -/
theorem load_crowded {between : Bytes} (wide : between.size = 0xFFEE * 40) :
    ∃ analyzer events image,
      load noFiles ⟨some (.memory (Elf.crowded between)), none⟩ = .ok (analyzer, events) ∧
        analyzer.elf? = some image ∧ image.tables = Elf.crowdedTables between ∧
        image.symbols = .ok [Elf.absoluteSymbol, Elf.commonSymbol] := by
  obtain ⟨image, parsed, told⟩ := Elf.parse_crowded wide
  have first : image.tables.FirstSymbols 1 := told ▸ Elf.first_crowded
  have listed := Elf.symbols_of_firstSymbols parsed first
  -- The entries stand in the order that the sort asks for.
  rw [told, Elf.symbols_crowded wide, Symbol.largestFirst, List.mergeSort_of_pairwise (by decide)]
    at listed
  refine ⟨⟨some image, none⟩, [image.parsedEvent, .creatingAnalyzer true false], image, ?_, rfl, told,
    listed⟩
  simp only [load, loadOptional, Elf.Image.load, parsed, Bind.bind, Except.bind, Pure.pure,
    Except.pure]
  rfl

/-- The common symbol is listed in no section, although there are headers with reserved indices. -/
theorem reserved_indices_hold_no_symbol_common :
    ∃ analyzer events image, ∃ listed : String → List Symbol,
      load noFiles ⟨some (.memory (Elf.crowded Elf.emptyHeaders)), none⟩ = .ok (analyzer, events) ∧
        analyzer.elf? = some image ∧ (image.tables.entry 1 1).sectionIndex = 0xFFF2 ∧
        image.tables.symbol? 1 1 = some Elf.commonSymbol ∧
        (∀ name, analyzer.symbolsInSection name = .ok (listed name)) ∧
        ∀ name, Elf.commonSymbol ∉ listed name := by
  obtain ⟨analyzer, events, image, done, image?, told, _⟩ := load_crowded Elf.size_emptyHeaders
  have first : image.tables.FirstSymbols 1 := told ▸ Elf.first_crowded
  have index : (image.tables.entry 1 1).sectionIndex = 0xFFF2 := by rw [told, Elf.entries_crowded.2]
  have found : image.tables.symbol? 1 1 = some Elf.commonSymbol := told ▸ Elf.common_crowded
  have count : image.tables.count = 0xFFF2 := told ▸ Elf.told_crowded.2.2.1
  obtain ⟨_, _, _, listed, _, _, outside, inside, members, _⟩ :=
    reserved_indices_hold_no_symbol done image? first
  -- The index is reserved, and the headers end in front of it.
  have nowhere : image.tables.Nowhere (image.tables.entry 1 1) := by
    refine .inr ?_
    rw [index, count]
    decide
  refine ⟨analyzer, events, image, listed, done, image?, index, found, inside, ?_⟩
  intro name member
  have here := (List.mem_filter.mp ((members name).mem_iff.mp member)).2
  rw [outside 1 _ found nowhere] at here
  exact Option.some_ne_none name (of_decide_eq_true here).symm

/-- The absolute symbol is listed in the section whose header has its index, and is the only one
there. -/
theorem absolute_symbol_in_section :
    ∃ analyzer events image owning,
      load noFiles ⟨some (.memory (Elf.crowded Elf.emptyHeaders)), none⟩ = .ok (analyzer, events) ∧
        analyzer.elf? = some image ∧ image.tables.FirstSymbols 1 ∧
        Elf.firstReserved ≤ (image.tables.entry 1 0).sectionIndex ∧
        image.tables.symbol? 1 0 = some Elf.absoluteSymbol ∧
        Elf.absoluteSymbol.sectionName? = some ".bss" ∧
        analyzer.symbolsInSection ".bss" = .ok [Elf.absoluteSymbol] ∧
        analyzer.sectionsWithSymbols = .ok owning ∧ ".bss" ∈ owning.map (·.name) := by
  obtain ⟨analyzer, events, image, done, image?, told, own⟩ := load_crowded Elf.size_emptyHeaders
  obtain ⟨data, parsed⟩ := (loaded_of_load done).image image image?
  have reserved : Elf.firstReserved ≤ (image.tables.entry 1 0).sectionIndex := by
    rw [told, Elf.entries_crowded.1]
    decide
  have found : image.tables.symbol? 1 0 = some Elf.absoluteSymbol := by
    rw [told, Elf.absolute_crowded Elf.size_emptyHeaders]
  have inside : [Elf.absoluteSymbol, Elf.commonSymbol].filter (·.sectionName? = some ".bss") =
      [Elf.absoluteSymbol] := by decide
  refine ⟨analyzer, events, image, _, done, image?, told ▸ Elf.first_crowded, reserved, found, rfl, ?_,
    sectionsWithSymbols_image image? own, (mem_owning_iff parsed own ".bss").mpr ?_⟩
  · rw [symbolsInSection_image image? own, inside]
  · rw [inside]
    exact List.cons_ne_nil _ _

end Analyzer

end Footprint
