import Footprint.Proofs.Analyzer.Lists
import Footprint.Proofs.Analyzer.Queries
import Footprint.Proofs.LineTable.Lookup
import Footprint.Proofs.LineTable.Sequences

/-! The source location of a symbol: the question for it alone and the question for the symbol with
its location tell the same. -/

namespace Footprint

namespace Symbol

/-- The same symbol, of which it is not known where it is defined. -/
def withoutSource (symbol : Symbol) : Symbol :=
  { symbol with sourceFile? := none, sourceLine? := none }

/-- Nothing is taken from a plain symbol. -/
theorem withoutSource_plain {symbol : Symbol} (plain : Plain symbol) :
    symbol.withoutSource = symbol := by
  rw [withoutSource, ← plain.noFile, ← plain.noLine]

/-- A plain symbol has no source location. -/
theorem sourceLocation?_plain {symbol : Symbol} (plain : Plain symbol) :
    symbol.sourceLocation? = none := by
  simp only [sourceLocation?, plain.noFile]

/-- In a tidy list, the first symbol with a name is a largest one of that name. -/
theorem Tidy.size_le {symbols : List Symbol} (tidy : Tidy symbols) {name : String}
    {symbol : Symbol} (found : symbols.find? (·.name = name) = some symbol) :
    ∀ other ∈ symbols, other.name = name → other.size ≤ symbol.size := by
  obtain ⟨_, front, behind, split, before⟩ := List.find?_eq_some_iff_append.mp found
  have descending := tidy.descending
  rw [split] at descending ⊢
  intro other member named
  -- The symbols in front have other names, and those behind are not larger.
  rcases List.mem_append.mp member with earlier | later
  · have unnamed := before other earlier
    simp [named] at unnamed
  · rcases List.mem_cons.mp later with rfl | behind
    · exact UInt64.le_refl _
    · exact (List.pairwise_cons.mp (List.pairwise_append.mp descending).2.1).1 other behind

end Symbol

/-- The rows of an image's line table ascend. -/
theorem Elf.Image.ascending_lineTable (image : Elf.Image) :
    LineTable.Ascending image.lineTable.rows := by
  unfold lineTable
  split
  · exact LineTable.ascending_ofHistory _
  · exact List.Pairwise.nil

namespace Analyzer

open Footprint.Symbol

/-- The source location of a symbol: that of the row which the line table of the image has for its
address, unless it is data. -/
def location? (analyzer : Analyzer) (symbol : Symbol) : Option SourceLocation :=
  match analyzer.elf? with
  | some image =>
    if symbol.kind = .object then none
    else (image.lineTable.lookup? symbol.address).map LineProgram.Row.location
  | none => none

/-- A symbol with its source location, where it has one. -/
def located (analyzer : Analyzer) (symbol : Symbol) : Symbol :=
  (analyzer.location? symbol).elim symbol symbol.withSource

section Located

variable {analyzer : Analyzer} {symbol : Symbol}

/-- What is written into a symbol is its location. -/
theorem sourceLocation?_located (plain : Plain symbol) :
    (analyzer.located symbol).sourceLocation? = analyzer.location? symbol := by
  rw [located]
  cases analyzer.location? symbol with
  | none => exact sourceLocation?_plain plain
  | some location => rfl

/-- Without its location, the symbol is the plain one. -/
theorem withoutSource_located (plain : Plain symbol) :
    (analyzer.located symbol).withoutSource = symbol := by
  rw [located]
  -- A location that was written is taken away again.
  cases analyzer.location? symbol with
  | none => exact withoutSource_plain plain
  | some location => exact withoutSource_plain plain

/-- Writing the location changes nothing that it depends on. -/
theorem fields_located (analyzer : Analyzer) (symbol : Symbol) :
    (analyzer.located symbol).kind = symbol.kind ∧
      (analyzer.located symbol).address = symbol.address ∧
      (analyzer.located symbol).size = symbol.size := by
  rw [located]
  cases analyzer.location? symbol <;> exact ⟨rfl, rfl, rfl⟩

/-- A symbol has a location where the image has a row for it, and it is the one of that row. -/
theorem location?_eq_some_iff {location : SourceLocation} :
    analyzer.location? symbol = some location ↔
      ∃ image row, analyzer.elf? = some image ∧ symbol.kind ≠ .object ∧
        image.lineTable.lookup? symbol.address = some row ∧ row.location = location := by
  cases image? : analyzer.elf? with
  | none => simp [location?, image?]
  | some image =>
    by_cases data : symbol.kind = .object
    · simp [location?, image?, data]
    · simp [location?, image?, data]

/-- Whether a symbol has a location is told by the addresses of the rows. -/
theorem location?_ne_none_iff :
    analyzer.location? symbol ≠ none ↔
      ∃ image, analyzer.elf? = some image ∧ symbol.kind ≠ .object ∧
        ∃ row ∈ image.lineTable.rows, row.address ≤ symbol.address := by
  cases image? : analyzer.elf? with
  | none => simp [location?, image?]
  | some image =>
    by_cases data : symbol.kind = .object
    · simp [location?, image?, data]
    · have none : image.lineTable.lookup? symbol.address = none ↔ _ :=
        LineTable.lookup?_eq_none_iff image.ascending_lineTable
      simp [location?, image?, data, none]

end Located

section Answers

variable {analyzer : Analyzer} {image : Elf.Image} (name : String) (needed : Bool)

/-- A symbol is located in the line table of the image, whether that was decoded before or not. -/
theorem locate_answer (image? : analyzer.elf? = some image) (symbol : Symbol) :
    (locate image symbol (analyzer.service.cache needed)).answer = analyzer.location? symbol := by
  simp only [location?, image?, locate]
  split
  · rfl
  · -- What is known of the line table is the table itself.
    have known := image.lines_map (·.lookup? symbol.address) needed
    have decoded : image.lines none = ⟨image.lineTable, image.lineEvents, some image.lineTable⟩ := by
      rw [Elf.Image.lines, Elf.Image.decodedLines_eq]
    rw [service_cache image?, Elf.Image.lineInfo, known, decoded]
    rfl

/-- The location of a name is that of the first symbol that has it. -/
theorem symbolDebugInfo_answer (analyzer : Analyzer) :
    (analyzer.symbolDebugInfo name (analyzer.service.cache needed)).answer =
      (analyzer.known? name).bind analyzer.location? := by
  cases image? : analyzer.elf? with
  | none =>
    -- Without an image nothing has a location.
    have nowhere : analyzer.location? = fun _ => none := by
      funext symbol
      simp only [location?, image?]
    simp [symbolDebugInfo, image?, nowhere, Elf.Reply.plain]
  | some image =>
    simp only [symbolDebugInfo, image?, known?]
    cases analyzer.allSymbols with
    | error cause => rfl
    | ok symbols =>
      simp only [symbolNamed?]
      cases symbols.find? (·.name = name) with
      | none => rfl
      | some symbol => exact locate_answer needed image? symbol

/-- The symbol of a name is the first one that has it, with its location where it has one. -/
theorem symbolWithDebugInfo_answer (analyzer : Analyzer) :
    (analyzer.symbolWithDebugInfo name (analyzer.service.cache needed)).answer =
      analyzer.allSymbols.map fun symbols =>
        (symbols.find? (·.name = name)).map analyzer.located := by
  cases listed : analyzer.allSymbols with
  | error cause => simp only [symbolWithDebugInfo, listed, Elf.Reply.plain, Except.map]
  | ok symbols =>
    simp only [symbolWithDebugInfo, listed, symbolNamed?, Except.map]
    cases symbols.find? (·.name = name) with
    | none => rfl
    | some symbol =>
      cases image? : analyzer.elf? with
      | none =>
        simp only [Option.map_some, located, location?, image?]
        rfl
      | some image =>
        have answered := locate_answer needed image? symbol
        simp only [Elf.Reply.map, answered, Option.map_some, located]
        cases analyzer.location? symbol <;> rfl

end Answers

/-- The question for a source location and the question for the symbol with its location agree, each
of them asked before or after the line table was decoded: there is a location to tell exactly where
the other question succeeds with a symbol that has it. That symbol is, but for the location, the
first of all symbols with the name, and so a largest one of that name. It has a location if there is
an image, it is not data and the image has a row that is not above it; the location is that of the
row that the line table finds for its address. -/
theorem symbolDebugInfo_agrees {analyzer : Analyzer} (loaded : Loaded analyzer) (name : String)
    (first second : Bool) :
    let location? := (analyzer.symbolDebugInfo name (analyzer.service.cache first)).answer
    let symbol? := (analyzer.symbolWithDebugInfo name (analyzer.service.cache second)).answer
    (∀ location, location? = some location ↔
        ∃ symbol, symbol? = .ok (some symbol) ∧ symbol.sourceLocation? = some location) ∧
      ∀ symbol, symbol? = .ok (some symbol) →
        ∃ symbols, analyzer.allSymbols = .ok symbols ∧
          symbols.find? (·.name = name) = some symbol.withoutSource ∧
          (∀ other ∈ symbols, other.name = name → other.size ≤ symbol.size) ∧
          (symbol.sourceLocation? ≠ none ↔
            ∃ image, analyzer.elf? = some image ∧ symbol.kind ≠ .object ∧
              ∃ row ∈ image.lineTable.rows, row.address ≤ symbol.address) ∧
          ∀ location, symbol.sourceLocation? = some location ↔
            ∃ image row, analyzer.elf? = some image ∧ symbol.kind ≠ .object ∧
              image.lineTable.lookup? symbol.address = some row ∧ row.location = location := by
  intro location? symbol?
  have asked : location? = (analyzer.known? name).bind analyzer.location? :=
    symbolDebugInfo_answer name first analyzer
  have answered : symbol? = analyzer.allSymbols.map fun symbols =>
      (symbols.find? (·.name = name)).map analyzer.located :=
    symbolWithDebugInfo_answer name second analyzer
  rw [asked, answered, known?]
  cases listed : analyzer.allSymbols with
  | error cause => simp [Except.map]
  | ok symbols =>
    cases found : symbols.find? (·.name = name) with
    | none => simp [Except.map, found]
    | some own =>
      have tidy := (tidy_allSymbols loaded listed).1
      have plain := tidy.plain own (List.mem_of_find?_eq_some found)
      have written : (analyzer.located own).sourceLocation? = _ := sourceLocation?_located plain
      obtain ⟨kind, address, size⟩ := fields_located analyzer own
      simp only [Except.map, found, Option.map_some, Option.bind_some, Except.ok.injEq,
        Option.some.injEq]
      constructor
      · intro location
        rw [← written]
        simp
      · rintro symbol rfl
        refine ⟨symbols, rfl, ?_, ?_, ?_, ?_⟩
        · rw [withoutSource_located plain]
          exact found
        · rw [size]
          exact tidy.size_le found
        · rw [written, kind, address]
          exact location?_ne_none_iff
        · intro location
          rw [written, kind, address]
          exact location?_eq_some_iff

/-- An image with code, a function in it, and the line program of a block that the function starts
inside of. -/
def firmware : Elf.Layout where
  class_ := .elf64
  version := 1
  osAbi := 0
  abiVersion := 0
  padding := List.replicate 7 0
  objectType := 2
  machine := 62
  objectVersion := 1
  entry := 0x1000
  programHeaders := 0
  flags := 0
  size := 64
  programHeaderStride := 0
  programHeaderCount := 0
  sections := [
    { name := ".text", flags := 6, address := 0x1000, info := 0, alignment := 4, entrySize := 0
      offset := 64, type := 1, link := 0, contents := .stored [0, 0, 0, 0] },
    { name := ".debug_line", flags := 0, address := 0, info := 0, alignment := 1, entrySize := 0
      offset := 72, type := 1, link := 0
      contents := .stored (LineTable.blockUnit false).assembly.frame.bytes }]
  symbolTable := ⟨"symbols", 0, 0, 1, 8, 24, 120⟩
  symbolTableType := 2
  symbolNames := ⟨"names", 0, 0, 0, 1, 0, 168⟩
  sectionNames := ⟨"sections", 0, 0, 0, 1, 0, 176⟩
  symbols := [⟨"f", 0x1002, 2, 2, 0, 1⟩]
  sectionHeaders := 224
  sectionHeaderStride := 64
  fileSize := 608
  filler := fun _ => 0
  padded := recurring.padded
  few := by decide
  stride := recurring.stride
  symbolic := recurring.symbolic
  plain := by decide
  typed := by decide
  namedSections := by decide
  namedSymbols := by decide
  shortSectionNames := by decide +kernel
  shortSymbolNames := by decide +kernel
  headerFits := ⟨trivial, trivial, trivial⟩
  headersFit := fun _ _ => ⟨trivial, trivial, trivial, trivial, trivial, trivial⟩
  entriesFit := fun _ _ => ⟨trivial, trivial⟩
  addressable := by decide
  inside := by decide +kernel
  apart := List.Pairwise.imp Block.apart_of_beside (by decide +kernel)

/-- The function as the image lists it. -/
def codeSymbol : Symbol := ⟨"f", .function, 0x1002, 2, some ".text", none, none, none⟩

/-- The image lists the function. -/
theorem symbols_firmware : firmware.image.symbols = .ok [codeSymbol] := by
  have listed : firmware.image.symbols = .ok (largestFirst [codeSymbol]) := rfl
  rw [listed, largestFirst, List.mergeSort_singleton]

/-- The line table of the image is that of the block. -/
theorem lineTable_firmware :
    firmware.image.lineTable = LineTable.ofHistory (LineTable.block false).emitted := by
  have stored : ((firmware.parts.find? (·.name = ".debug_line")).bind Elf.Part.bytes?) =
      some (LineTable.blockUnit false).assembly.frame.bytes := by
    decide +kernel
  have rows : (LineTable.blockUnit false).assembly.rows = (LineTable.block false).emitted := by
    decide +kernel
  rw [Elf.Image.lineTable, firmware.sectionData_image, stored, Option.map_some]
  dsimp only
  rw [LineTable.parse_fst, LineTable.emitted_assembly, rows]

/-- The row that the function starts behind locates it. -/
theorem located_firmware : Analyzer.located ⟨some firmware.image, none⟩ codeSymbol =
    codeSymbol.withSource ⟨"main.c", 1⟩ := by
  have found : firmware.image.lineTable.lookup? 0x1002 =
      some ⟨0x1000, "main.c", 1, 0, true, false, false⟩ := by
    rw [lineTable_firmware]
    exact LineTable.lookup?_ofHistory (by decide) (by decide) (by decide)
  have here : Analyzer.location? ⟨some firmware.image, none⟩ codeSymbol = some ⟨"main.c", 1⟩ :=
    location?_eq_some_iff.mpr ⟨_, _, rfl, by decide, found, rfl⟩
  rw [located, here]
  rfl

/-- The function has the location of the first row of the block in both answers. -/
theorem symbolDebugInfo_agrees_for_function :
    ∃ analyzer events, load noFiles (inMemory firmware none) = .ok (analyzer, events) ∧
      (analyzer.symbolDebugInfo "f" none).answer = some ⟨"main.c", 1⟩ ∧
      (analyzer.symbolWithDebugInfo "f" none).answer =
        .ok (some (codeSymbol.withSource ⟨"main.c", 1⟩)) := by
  have done := load_inMemory firmware
  have answered : (symbolWithDebugInfo ⟨some firmware.image, none⟩ "f" none).answer =
      .ok (some (codeSymbol.withSource ⟨"main.c", 1⟩)) := by
    rw [← located_firmware]
    refine (symbolWithDebugInfo_answer "f" false _).trans ?_
    simp only [allSymbols, symbols_firmware]
    rfl
  obtain ⟨agrees, -⟩ := symbolDebugInfo_agrees (loaded_of_load done) "f" false false
  exact ⟨_, _, done, (agrees _).mpr ⟨_, answered, rfl⟩, answered⟩

end Analyzer

end Footprint
