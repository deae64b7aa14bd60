import Footprint.Analyzer.Basic
import Footprint.Proofs.Elf.RoundTrip
import Footprint.Proofs.Elf.Symbols
import Footprint.Proofs.LinkMap.Listing
import Footprint.Proofs.LinkMap.Merge

/-! The lists of symbols that a loaded analyzer hands out, with or without an image or a link
map. -/

namespace Footprint.Analyzer

open Footprint.Symbol

/-- Whether the image was parsed from bytes and the link map from a text. -/
structure Loaded (analyzer : Analyzer) : Prop where
  image : ∀ image, analyzer.elf? = some image → ∃ data, Elf.Image.parse data = .ok image
  map : ∀ map, analyzer.map? = some map → ∃ text, map = (LinkMap.parse text).1

/-- An input that is there after loading was loaded from its source. -/
theorem load_of_loadOptional {α β : Type} {load : α → Except Error (β × List Event)}
    {source? : Option α} {value : β} {events : List Event}
    (done : loadOptional load source? = .ok (some value, events)) :
    ∃ source, source? = some source ∧ load source = .ok (value, events) := by
  cases source? with
  | none => simp [loadOptional] at done
  | some source =>
    obtain ⟨⟨own, reported⟩, loaded, rest⟩ := ok_of_map done
    simp only [Prod.mk.injEq, Option.some.injEq] at rest
    obtain ⟨rfl, rfl⟩ := rest
    exact ⟨source, rfl, loaded⟩

/-- An image that was loaded was parsed from bytes. -/
theorem parse_of_loadImage {files : Files} {source : Source Bytes} {image : Elf.Image}
    {events : List Event} (done : Elf.Image.load files source = .ok (image, events)) :
    ∃ data, Elf.Image.parse data = .ok image := by
  -- The bytes are given at once, or are those of a file.
  cases source with
  | file path =>
    obtain ⟨data, _, rest⟩ := ok_of_bind done
    obtain ⟨own, parsed, rest⟩ := ok_of_map rest
    exact ⟨data, (Prod.mk.inj rest).1 ▸ parsed⟩
  | memory data =>
    obtain ⟨own, parsed, rest⟩ := ok_of_map done
    exact ⟨data, (Prod.mk.inj rest).1 ▸ parsed⟩

/-- A link map that was loaded was parsed from a text. -/
theorem parse_of_loadMap {files : Files} {source : Source String} {map : LinkMap}
    {events : List Event} (done : LinkMap.load files source = .ok (map, events)) :
    ∃ text, map = (LinkMap.parse text).1 := by
  cases source with
  | file path =>
    obtain ⟨data, _, rest⟩ := ok_of_map done
    exact ⟨Text.Utf8.decode data, (Prod.mk.inj rest).1.symm⟩
  | memory text =>
    simp only [LinkMap.load, Except.ok.injEq] at done
    exact ⟨text, by rw [done]⟩

/-- What an analyzer was loaded from. -/
theorem load_eq_ok {files : Files} {sources : Sources} {analyzer : Analyzer} {events : List Event}
    (done : load files sources = .ok (analyzer, events)) :
    ∃ elfEvents mapEvents,
      loadOptional (Elf.Image.load files) sources.elf? = .ok (analyzer.elf?, elfEvents) ∧
      loadOptional (LinkMap.load files) sources.map? = .ok (analyzer.map?, mapEvents) := by
  obtain ⟨⟨elf?, elfEvents⟩, elfLoaded, rest⟩ := ok_of_bind done
  obtain ⟨⟨map?, mapEvents⟩, mapLoaded, rest⟩ := ok_of_map rest
  obtain ⟨rfl, _⟩ := Prod.mk.inj rest
  exact ⟨elfEvents, mapEvents, elfLoaded, mapLoaded⟩

/-- Loading parses its inputs. -/
theorem loaded_of_load {files : Files} {sources : Sources} {analyzer : Analyzer}
    {events : List Event} (done : load files sources = .ok (analyzer, events)) :
    Loaded analyzer := by
  obtain ⟨elfEvents, mapEvents, elfLoaded, mapLoaded⟩ := load_eq_ok done
  constructor
  · intro image there
    rw [there] at elfLoaded
    obtain ⟨source, _, loaded⟩ := load_of_loadOptional elfLoaded
    exact parse_of_loadImage loaded
  · intro map there
    rw [there] at mapLoaded
    obtain ⟨source, _, loaded⟩ := load_of_loadOptional mapLoaded
    exact parse_of_loadMap loaded

/-- Where an image loads alone, it loads with the link map in a text. -/
theorem load_withMap {files : Files} {elf : Source Bytes} {alone : Analyzer} {events : List Event}
    (loaded : load files ⟨some elf, none⟩ = .ok (alone, events)) (text : String) :
    ∃ image data bothEvents, alone = ⟨some image, none⟩ ∧ Elf.Image.parse data = .ok image ∧
      load files ⟨some elf, some (.memory text)⟩ =
        .ok (⟨some image, some (LinkMap.parse text).1⟩, bothEvents) := by
  obtain ⟨⟨elf?, elfEvents⟩, elfLoaded, rest⟩ := ok_of_bind loaded
  obtain ⟨⟨image, reported⟩, imageLoaded, present⟩ := ok_of_map elfLoaded
  obtain ⟨rfl, rfl⟩ := Prod.mk.inj present
  obtain ⟨rfl, _⟩ := Prod.mk.inj (Except.ok.inj rest)
  obtain ⟨data, parsed⟩ := parse_of_loadImage imageLoaded
  refine ⟨image, data, reported ++ (LinkMap.parse text).2 ++ [.creatingAnalyzer true true], rfl,
    parsed, ?_⟩
  -- A text that is given at once is parsed without fail.
  simp only [load, loadOptional, imageLoaded, LinkMap.load, Bind.bind, Except.bind, Pure.pure,
    Except.pure]
  rfl

variable {analyzer : Analyzer} {symbols : List Symbol}

/-- All symbols are tidy, and with a link map no two of them have one key. -/
theorem tidy_allSymbols (loaded : Loaded analyzer) (listed : analyzer.allSymbols = .ok symbols) :
    Tidy symbols ∧ (analyzer.map?.isSome → (symbols.map key).Nodup) := by
  rw [allSymbols] at listed
  -- The four cases are those of the inputs that may be there.
  cases image? : analyzer.elf? with
  | none =>
    cases map? : analyzer.map? with
    | none => simp [image?, map?] at listed
    | some map =>
      simp only [image?, map?, Except.ok.injEq] at listed
      obtain ⟨text, rfl⟩ := loaded.map map map?
      rw [← listed]
      exact ⟨LinkMap.tidy_parse text, fun _ => LinkMap.nodup_parse text⟩
  | some image =>
    obtain ⟨data, parsed⟩ := loaded.image image image?
    cases map? : analyzer.map? with
    | none =>
      simp only [image?, map?] at listed
      exact ⟨(Elf.tidy_of_parse parsed listed).1, fun present => by simp at present⟩
    | some map =>
      simp only [image?, map?] at listed
      obtain ⟨own, table, rest⟩ := ok_of_map listed
      obtain ⟨text, rfl⟩ := loaded.map map map?
      rw [← rest]
      have plain := (Elf.tidy_of_parse parsed table).1.plain
      exact ⟨LinkMap.tidy_merge plain (LinkMap.tidy_parse text).plain,
        fun _ => LinkMap.nodup_merge _ own⟩

/-- The symbols in a section are tidy, lie in it, and come from no object file. -/
theorem tidy_symbolsInSection (loaded : Loaded analyzer) {name : String}
    (listed : analyzer.symbolsInSection name = .ok symbols) :
    Tidy symbols ∧ ∀ symbol ∈ symbols, symbol.sectionName? = some name ∧ symbol.object? = none := by
  obtain ⟨image, there, inside⟩ := ok_of_bind listed
  obtain ⟨own, table, kept⟩ := ok_of_map inside
  have image? : analyzer.elf? = some image := by
    rw [Analyzer.image] at there
    split at there
    · rename_i present
      rw [present, Except.ok.inj there]
    · contradiction
  obtain ⟨data, parsed⟩ := loaded.image image image?
  obtain ⟨tidy, unattributed⟩ := Elf.tidy_of_parse parsed table
  rw [← kept]
  refine ⟨tidy.filter _, ?_⟩
  intro symbol member
  obtain ⟨member, inSection⟩ := List.mem_filter.mp member
  exact ⟨of_decide_eq_true inSection, unattributed symbol member⟩

/-- The symbols of an object file are tidy, and come from it. -/
theorem tidy_symbolsForObject (loaded : Loaded analyzer) {object : String}
    (listed : analyzer.symbolsForObject object = .ok symbols) :
    Tidy symbols ∧ ∀ symbol ∈ symbols, symbol.object? = some object := by
  -- The link map answers alone, or else all symbols are asked.
  have filtered : ∃ own, Tidy own ∧ symbols = own.filter (·.object? = some object) := by
    rw [symbolsForObject] at listed
    cases map? : analyzer.map? with
    | some map =>
      simp only [map?, Except.ok.injEq] at listed
      obtain ⟨text, rfl⟩ := loaded.map map map?
      exact ⟨_, LinkMap.tidy_parse text, listed.symm⟩
    | none =>
      simp only [map?] at listed
      obtain ⟨own, all, rest⟩ := ok_of_map listed
      exact ⟨own, (tidy_allSymbols loaded all).1, rest.symm⟩
  obtain ⟨own, tidy, rfl⟩ := filtered
  refine ⟨tidy.filter _, ?_⟩
  intro symbol member
  exact of_decide_eq_true (List.mem_filter.mp member).2

/-- Every list of symbols that a loaded analyzer hands out has larger symbols first, all of them
with a size and a name and without a source location; those asked for by section lie in it and come
from no object file, those asked for by object file come from it, and with a link map no two of all
symbols share a name and an address. -/
theorem lists_of_load {files : Files} {sources : Sources} {analyzer : Analyzer}
    {events : List Event} (done : load files sources = .ok (analyzer, events)) :
    (∀ symbols, analyzer.allSymbols = .ok symbols →
        Tidy symbols ∧ (analyzer.map?.isSome → (symbols.map key).Nodup)) ∧
      (∀ name symbols, analyzer.symbolsInSection name = .ok symbols →
        Tidy symbols ∧
          ∀ symbol ∈ symbols, symbol.sectionName? = some name ∧ symbol.object? = none) ∧
      ∀ object symbols, analyzer.symbolsForObject object = .ok symbols →
        Tidy symbols ∧ ∀ symbol ∈ symbols, symbol.object? = some object := by
  have loaded := loaded_of_load done
  exact ⟨fun _ listed => tidy_allSymbols loaded listed,
    fun _ _ listed => tidy_symbolsInSection loaded listed,
    fun _ _ listed => tidy_symbolsForObject loaded listed⟩

/-- An image in which two symbols of different sizes share their name and their address. -/
def recurring : Elf.Layout where
  class_ := .elf64
  version := 1
  osAbi := 0
  abiVersion := 0
  padding := List.replicate 7 0
  objectType := 2
  machine := 62
  objectVersion := 1
  entry := 0
  programHeaders := 0
  flags := 0
  size := 64
  programHeaderStride := 0
  programHeaderCount := 0
  sections := []
  symbolTable := ⟨"symbols", 0, 0, 1, 8, 24, 64⟩
  symbolTableType := 2
  symbolNames := ⟨"names", 0, 0, 0, 1, 0, 136⟩
  sectionNames := ⟨"sections", 0, 0, 0, 1, 0, 141⟩
  symbols := [⟨"f", 0x10, 8, 2, 0, 0⟩, ⟨"f", 0x10, 4, 2, 0, 0⟩]
  sectionHeaders := 168
  sectionHeaderStride := 64
  fileSize := 424
  filler := fun _ => 0
  padded := by decide
  few := by decide
  stride := by decide
  symbolic := by decide
  plain := by decide
  typed := by decide
  namedSections := by decide
  namedSymbols := by decide
  shortSectionNames := by decide +kernel
  shortSymbolNames := by decide +kernel
  headerFits := ⟨trivial, trivial, trivial⟩
  headersFit := fun _ _ => ⟨trivial, trivial, trivial, trivial, trivial, trivial⟩
  entriesFit := fun _ _ => ⟨trivial, trivial⟩
  addressable := by decide
  inside := by decide +kernel
  apart := List.Pairwise.imp Block.apart_of_beside (by decide +kernel)

/-- A function of a size, as the image lists it. -/
def occurrence (size : UInt64) : Symbol := ⟨"f", .function, 0x10, size, none, none, none, none⟩

/-- Nothing but the bytes of an image and the text of a link map, if there is one. -/
def inMemory (layout : Elf.Layout) (text? : Option String) : Sources :=
  ⟨some (.memory layout.data), text?.map .memory⟩

/-- No file can be read. -/
def noFiles : Files := fun _ => .error .missing

/-- The file of a layout loads to its image. -/
theorem load_inMemory (layout : Elf.Layout) :
    load noFiles (inMemory layout none) = .ok (⟨some layout.image, none⟩,
      [layout.image.parsedEvent, .creatingAnalyzer true false]) := by
  simp only [load, loadOptional, inMemory, Elf.Image.load, layout.parse_data, Option.map_none,
    Bind.bind, Except.bind, Pure.pure, Except.pure]
  rfl

/-- The image lists both symbols, the larger one first. -/
theorem symbols_recurring :
    recurring.image.symbols = .ok [occurrence 8, occurrence 4] := by
  have listed : recurring.image.symbols = .ok (largestFirst [occurrence 8, occurrence 4]) := rfl
  -- The entries stand in the order that the sort asks for.
  rw [listed, largestFirst, List.mergeSort_of_pairwise (by decide)]

/-- The two symbols of one name and address are one with a link map. -/
theorem lists_of_load_recurring :
    let text := "Symbol File\n.text.f 0x10 0x8 main.o\n f 0x10 0x8\n g 0x20 0x2\n"
    ∃ analyzer events symbols,
      load noFiles (inMemory recurring (some text)) = .ok (analyzer, events) ∧
        analyzer.allSymbols = .ok symbols ∧ Tidy symbols ∧ (symbols.map key).Nodup := by
  intro text
  obtain ⟨image, _, events, alone, _, both⟩ := load_withMap (load_inMemory recurring) text
  obtain rfl := Option.some.inj (Analyzer.mk.inj alone).1
  have listed : allSymbols ⟨some recurring.image, some (LinkMap.parse text).1⟩ =
      .ok ((LinkMap.parse text).1.merge [occurrence 8, occurrence 4]) := by
    simp only [allSymbols, symbols_recurring, Bind.bind, Except.bind, Pure.pure, Except.pure]
  obtain ⟨tidy, distinct⟩ := (lists_of_load both).1 _ listed
  exact ⟨_, events, _, both, listed, tidy, distinct rfl⟩

end Footprint.Analyzer
