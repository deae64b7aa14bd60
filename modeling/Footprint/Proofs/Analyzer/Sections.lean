import Footprint.Proofs.Analyzer.Lists
import Footprint.Proofs.Elf.Sections
import Footprint.Proofs.Grouping
import Mathlib.Data.List.Dedup

/-! The sections of an image as a view of its symbols: each symbol is seen in one section, or in
none. -/

namespace Footprint.Analyzer

open Footprint.Symbol

section Image

variable {analyzer : Analyzer} {image : Elf.Image} {own : List Symbol}

/-- The sections of an analyzer are those of its image. -/
theorem sections_image (image? : analyzer.elf? = some image) :
    analyzer.sections = .ok image.sections := by
  rw [sections, Analyzer.image, image?]
  rfl

/-- The symbols in a section are those of the image that lie in it. -/
theorem symbolsInSection_image (image? : analyzer.elf? = some image)
    (table : image.symbols = .ok own) (name : String) :
    analyzer.symbolsInSection name = .ok (own.filter (·.sectionName? = some name)) := by
  rw [symbolsInSection, Analyzer.image, image?]
  simp only [Bind.bind, Except.bind, Elf.Image.symbolsInSection, table, Pure.pure, Except.pure]

/-- The sections with symbols are those of the image in which some symbol lies. -/
theorem sectionsWithSymbols_image (image? : analyzer.elf? = some image)
    (table : image.symbols = .ok own) :
    analyzer.sectionsWithSymbols = .ok (image.sections.filter fun area =>
      own.filter (·.sectionName? = some area.name) ≠ []) := by
  rw [sectionsWithSymbols, Analyzer.image, image?]
  simp only [Bind.bind, Except.bind, table, Pure.pure, Except.pure]
  refine congrArg _ (List.filter_congr fun area _ => ?_)
  -- A name is that of some symbol if the symbols in the section are not none.
  rw [Bool.eq_iff_iff, List.contains_iff_mem, List.mem_filterMap, decide_eq_true_iff,
    group_ne_nil_iff]

/-- A name is that of a section with symbols if some symbol of the image lies under it. -/
theorem mem_owning_iff {data : Bytes} (parsed : Elf.Image.parse data = .ok image)
    (table : image.symbols = .ok own) (name : String) :
    name ∈ (image.sections.filter fun area =>
        own.filter (·.sectionName? = some area.name) ≠ []).map (·.name) ↔
      own.filter (·.sectionName? = some name) ≠ [] := by
  constructor
  · intro member
    obtain ⟨area, kept, rfl⟩ := List.mem_map.mp member
    exact of_decide_eq_true (List.mem_filter.mp kept).2
  · intro some_
    -- The name of a symbol's section is that of a section of the image, which is kept for it.
    obtain ⟨symbol, inside, here⟩ := group_ne_nil_iff.mp some_
    obtain ⟨area, there, rfl⟩ :=
      List.mem_map.mp (Elf.sectionName_mem_sections parsed table symbol inside name here)
    exact List.mem_map_of_mem (List.mem_filter.mpr ⟨there, decide_eq_true some_⟩)

end Image

/-- The sections with symbols are those sections of the image, in their order, in which some symbol
lies, and no symbol lies in a section that the image does not have. Taken once for each name of a
section with symbols, the symbols in a section are, together with those in no section, all symbols of
the image, each once. -/
theorem sections_partition_symbols {files : Files} {sources : Sources} {analyzer : Analyzer}
    {events : List Event} {image : Elf.Image} {own : List Symbol}
    (done : load files sources = .ok (analyzer, events)) (image? : analyzer.elf? = some image)
    (table : image.symbols = .ok own) :
    ∃ all owning listed, analyzer.sections = .ok all ∧ analyzer.sectionsWithSymbols = .ok owning ∧
      (∀ name, analyzer.symbolsInSection name = .ok (listed name)) ∧
      (∀ name, name ∈ owning.map (·.name) ↔ listed name ≠ []) ∧
      owning = all.filter (fun area => listed area.name ≠ []) ∧
      (∀ symbol ∈ own, ∀ name, symbol.sectionName? = some name → name ∈ all.map (·.name)) ∧
      ((owning.map (·.name)).dedup.flatMap listed ++ own.filter (·.sectionName? = none)).Perm own := by
  obtain ⟨data, parsed⟩ := (loaded_of_load done).image image image?
  have owned := mem_owning_iff parsed table
  refine ⟨image.sections, _, _, sections_image image?, sectionsWithSymbols_image image? table,
    symbolsInSection_image image? table, owned, rfl, Elf.sectionName_mem_sections parsed table,
    perm_grouped (List.nodup_dedup _) ?_⟩
  intro symbol member name here
  rw [List.mem_dedup, owned]
  exact group_ne_nil_iff.mpr ⟨symbol, member, here⟩

/-- An image with two sections of one name and one without a name; a symbol lies in each of them, and
one has an absolute address. -/
def crossed : Elf.Layout where
  toBlueprint :=
    { recurring.toBlueprint with
      sections := [
        { name := "a", flags := 6, address := 0x10, info := 0, alignment := 4, entrySize := 0
          offset := 64, type := 1, link := 0, contents := .stored [0, 0, 0, 0] },
        { name := "", flags := 6, address := 0x20, info := 0, alignment := 4, entrySize := 0
          offset := 68, type := 1, link := 0, contents := .stored [0, 0, 0, 0] },
        { name := "a", flags := 6, address := 0x30, info := 0, alignment := 4, entrySize := 0
          offset := 72, type := 1, link := 0, contents := .stored [0, 0, 0, 0] }]
      symbolTable := ⟨"symbols", 0, 0, 1, 8, 24, 80⟩
      symbolNames := ⟨"names", 0, 0, 0, 1, 0, 200⟩
      sectionNames := ⟨"sections", 0, 0, 0, 1, 0, 216⟩
      symbols := [⟨"f", 0x10, 4, 2, 0, 1⟩, ⟨"g", 0x20, 3, 2, 0, 2⟩, ⟨"h", 0x30, 2, 2, 0, 3⟩,
        ⟨"k", 0x40, 1, 1, 0, 0xFFF1⟩]
      sectionHeaders := 248 }
  fileSize := 696
  filler := fun _ => 0
  padded := recurring.padded
  few := by decide
  stride := recurring.stride
  symbolic := recurring.symbolic
  plain := by decide
  typed := by decide
  namedSections := by decide
  namedSymbols := by decide
  shortSectionNames := by decide +kernel
  shortSymbolNames := by decide +kernel
  headerFits := ⟨trivial, trivial, trivial⟩
  headersFit := fun _ _ => ⟨trivial, trivial, trivial, trivial, trivial, trivial⟩
  entriesFit := fun _ _ => ⟨trivial, trivial⟩
  addressable := by decide
  inside := by decide +kernel
  apart := List.Pairwise.imp Block.apart_of_beside (by decide +kernel)

/-- The symbols of the image, of which two lie in sections of one name. -/
def crossedSymbols : List Symbol :=
  [⟨"f", .function, 0x10, 4, some "a", none, none, none⟩,
    ⟨"g", .function, 0x20, 3, none, none, none, none⟩,
    ⟨"h", .function, 0x30, 2, some "a", none, none, none⟩,
    ⟨"k", .object, 0x40, 1, none, none, none, none⟩]

/-- The image lists all of its symbols. -/
theorem symbols_crossed : crossed.image.symbols = .ok crossedSymbols := by
  have listed : crossed.image.symbols = .ok (largestFirst crossedSymbols) := rfl
  -- The entries stand in the order that the sort asks for.
  rw [listed, largestFirst, List.mergeSort_of_pairwise (by decide)]

/-- The symbols of the two sections of one name are taken once, and those of the section without a
name are in no section. -/
theorem sections_partition_symbols_crossed :
    ∃ analyzer events owning listed,
      load noFiles (inMemory crossed none) = .ok (analyzer, events) ∧
        analyzer.sectionsWithSymbols = .ok owning ∧ "a" ∈ owning.map (·.name) ∧
        analyzer.symbolsInSection "a" = .ok (listed "a") ∧
        ((owning.map (·.name)).dedup.flatMap listed ++
          crossedSymbols.filter (·.sectionName? = none)).Perm crossedSymbols := by
  obtain ⟨all, owning, listed, _, sections, inside, owned, _, _, parts⟩ :=
    sections_partition_symbols (load_inMemory crossed) rfl symbols_crossed
  refine ⟨_, _, owning, listed, load_inMemory crossed, sections, (owned "a").mpr ?_, inside "a",
    parts⟩
  -- The larger of the symbols in the two sections comes first.
  have two : (listed "a").map (·.name) = ["f", "h"] := by
    have given : symbolsInSection ⟨some crossed.image, none⟩ "a" =
        .ok (crossedSymbols.filter (·.sectionName? = some "a")) :=
      symbolsInSection_image rfl symbols_crossed "a"
    rw [Except.ok.inj ((inside "a").symm.trans given)]
    decide
  intro none
  rw [none] at two
  contradiction

end Footprint.Analyzer
