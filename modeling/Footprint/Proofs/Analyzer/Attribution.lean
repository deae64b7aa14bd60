import Footprint.Proofs.Analyzer.Lists
import Footprint.Proofs.LinkMap.Objects

/-! Which symbols come from an object file: the link map alone tells the same as the symbols that are
merged from an image and the map. -/

namespace Footprint

namespace Symbol

/-- The keys of the symbols that come from an object file. -/
def keysFrom (object : String) (symbols : List Symbol) : List (String × UInt64) :=
  (symbols.filter (·.object? = some object)).map key

variable {object : String} {symbols : List Symbol}

/-- Where keys are distinct, those from an object file are too. -/
theorem nodup_keysFrom (distinct : (symbols.map key).Nodup) : (keysFrom object symbols).Nodup :=
  distinct.sublist (List.filter_sublist.map key)

/-- A key comes from the object file of its symbol. -/
theorem mem_keysFrom (distinct : (symbols.map key).Nodup) (wanted : String × UInt64) :
    wanted ∈ keysFrom object symbols ↔ (at? symbols wanted).bind (·.object?) = some object := by
  constructor
  · intro member
    obtain ⟨symbol, kept, rfl⟩ := List.mem_map.mp member
    obtain ⟨inside, from_⟩ := List.mem_filter.mp kept
    -- No other symbol has the key, so that it is the one that a search finds.
    rw [at?_of_mem distinct inside]
    exact of_decide_eq_true from_
  · intro found
    obtain ⟨symbol, there, from_⟩ := Option.bind_eq_some_iff.mp found
    obtain ⟨inside, rfl⟩ := mem_of_at? there
    exact List.mem_map_of_mem (List.mem_filter.mpr ⟨inside, decide_eq_true from_⟩)

end Symbol

namespace LinkMap

open Footprint.Symbol

variable {map : LinkMap}

/-- The object files of a map are those that some key comes from. -/
theorem mem_objects (object : String) :
    object ∈ map.objects ↔ keysFrom object map.symbols ≠ [] := by
  rw [mem_objects_iff, symbolsForObject, keysFrom, ne_eq, ne_eq, List.map_eq_nil_iff]

/-- Merging into symbols without object files gives each key the object file of the map. -/
theorem object?_merge (distinct : (map.symbols.map key).Nodup) {own : List Symbol}
    (unattributed : ∀ symbol ∈ own, symbol.object? = none) (wanted : String × UInt64) :
    (at? (map.merge own) wanted).bind (·.object?) =
      (at? map.symbols wanted).bind (·.object?) := by
  rw [at?_merge distinct]
  cases last? : (own.filter (·.key = wanted)).getLast? with
  | none => rfl
  | some last =>
    -- The symbol of the image has no object file of its own, so that the map fills in the one it
    -- knows.
    have inside := List.mem_of_mem_filter (List.mem_of_getLast? last?)
    simp [unattributed last inside]

/-- The keys from an object file are the same before and after merging into symbols without object
files. -/
theorem mem_keysFrom_merge (distinct : (map.symbols.map key).Nodup) {own : List Symbol}
    (unattributed : ∀ symbol ∈ own, symbol.object? = none) (object : String)
    (wanted : String × UInt64) :
    wanted ∈ keysFrom object map.symbols ↔ wanted ∈ keysFrom object (map.merge own) := by
  rw [mem_keysFrom distinct, mem_keysFrom (nodup_merge map own),
    object?_merge distinct unattributed]

end LinkMap

namespace Analyzer

open Footprint.Symbol

/-- With an image that has a symbol table and a link map, the names and addresses of the symbols of
an object file are those of all symbols that come from it, each once in both, and an object file is
listed if there are any. -/
theorem symbolsForObject_agrees {files : Files} {sources : Sources} {analyzer : Analyzer}
    {events : List Event} {image : Elf.Image} {map : LinkMap} {own : List Symbol}
    (done : load files sources = .ok (analyzer, events)) (image? : analyzer.elf? = some image)
    (map? : analyzer.map? = some map) (table : image.symbols = .ok own) :
    ∃ merged, analyzer.allSymbols = .ok merged ∧
      ∀ object, ∃ listed, analyzer.symbolsForObject object = .ok listed ∧
        (listed.map key).Nodup ∧ (keysFrom object merged).Nodup ∧
        (∀ wanted, wanted ∈ listed.map key ↔ wanted ∈ keysFrom object merged) ∧
        (object ∈ analyzer.objects ↔ listed.map key ≠ []) := by
  have loaded := loaded_of_load done
  obtain ⟨data, parsed⟩ := loaded.image image image?
  obtain ⟨text, rfl⟩ := loaded.map map map?
  have distinct := LinkMap.nodup_parse text
  -- The symbols of an image alone come from no object file.
  have unattributed := (Elf.tidy_of_parse parsed table).2
  have all : analyzer.allSymbols = .ok ((LinkMap.parse text).1.merge own) := by
    simp only [allSymbols, image?, map?, table, Bind.bind, Except.bind, Pure.pure, Except.pure]
  refine ⟨_, all, fun object => ⟨_, by rw [symbolsForObject, map?], ?_⟩⟩
  refine ⟨nodup_keysFrom distinct, nodup_keysFrom (LinkMap.nodup_merge _ own),
    LinkMap.mem_keysFrom_merge distinct unattributed object, ?_⟩
  rw [objects, map?]
  exact LinkMap.mem_objects object

/-- Of two functions that the map attributes to two object files, the image lists one. -/
theorem symbolsForObject_agrees_for_two_files :
    let text := "Symbol File\n.text.f 0x10 0x8 a.o\n f 0x10 0x8\n.text.g 0x20 0x2 b.o\n g 0x20 0x2\n"
    ∃ analyzer events merged,
      load noFiles (inMemory recurring (some text)) = .ok (analyzer, events) ∧
        analyzer.allSymbols = .ok merged ∧ ("f", 0x10) ∈ keysFrom "a.o" merged ∧
        ("g", 0x20) ∈ keysFrom "b.o" merged ∧ "a.o" ∈ analyzer.objects := by
  intro text
  obtain ⟨image, _, events, alone, _, both⟩ := load_withMap (load_inMemory recurring) text
  obtain rfl := Option.some.inj (Analyzer.mk.inj alone).1
  obtain ⟨merged, all, agrees⟩ := symbolsForObject_agrees both rfl rfl symbols_recurring
  -- The map lists both functions, the larger one first.
  let listed : List Symbol :=
    [⟨"f", .unknown, 0x10, 0x8, none, some "a.o", none, none⟩,
      ⟨"g", .unknown, 0x20, 0x2, none, some "b.o", none, none⟩]
  have symbols : (LinkMap.parse text).1.symbols = listed := by
    have collected : (LinkMap.collect (Text.lines text.toList)).symbols = listed.toArray := by
      decide +kernel
    have placed : placeAll larger [] listed = listed := by decide
    rw [LinkMap.parse, collected, placed, largestFirst, List.mergeSort_of_pairwise (by decide)]
  obtain ⟨fromA, own, _, _, same, present⟩ := agrees "a.o"
  obtain ⟨fromB, others, _, _, sameB, _⟩ := agrees "b.o"
  have keysA : fromA.map key = [("f", 0x10)] := by
    rw [← Except.ok.inj own, LinkMap.symbolsForObject, symbols]
    decide
  have keysB : fromB.map key = [("g", 0x20)] := by
    rw [← Except.ok.inj others, LinkMap.symbolsForObject, symbols]
    decide
  refine ⟨_, events, merged, both, all, (same _).mp ?_, (sameB _).mp ?_, present.mpr ?_⟩
  · simp [keysA]
  · simp [keysB]
  · simp [keysA]

end Analyzer

end Footprint
