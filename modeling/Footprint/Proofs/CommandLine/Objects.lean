import Footprint.Proofs.CommandLine.Filters
import Footprint.Proofs.LinkMap.Objects

/-! What the command line tells of object files adds up to what the link map tells of the symbols
that come from them. -/

namespace Footprint.CommandLine

open Footprint.Symbol

/-- The number of bytes of all symbols together is the sum of their sizes. -/
theorem totalSize_eq (symbols : List Symbol) :
    totalSize symbols = (symbols.map (·.size.toNat)).sum := by
  rw [totalSize, List.sum_eq_foldl, List.foldl_map]

/-- With a link map, each object file is listed with its symbols. -/
theorem objectsWithSymbols_eq {analyzer : Analyzer} {map : LinkMap}
    (map? : analyzer.map? = some map) :
    objectsWithSymbols analyzer =
      .ok (map.objects.map fun object => (object, map.symbolsForObject object)) := by
  have each (object : String) : analyzer.symbolsForObject object =
      .ok (map.symbolsForObject object) := by rw [Analyzer.symbolsForObject, map?]
  rw [objectsWithSymbols, Analyzer.objects, map?]
  simp only [each]
  exact List.mapM_pure

/-- The object files of a link map are distinct, are those that symbols come from, and are ordered by
their largest symbols. The symbols of the object files, each list in the order of all symbols, and the
symbols that come from none are all symbols of the map, each once. The command that lists object files
shows one row for each, and the bytes and the numbers of symbols in the rows add up to those of all
symbols that come from an object file. -/
theorem objects_partition_symbols (text : String) :
    let map := (LinkMap.parse text).1
    let bytes (object : String) : Nat := totalSize (map.symbolsForObject object)
    let count (object : String) : Nat := (map.symbolsForObject object).length
    let row (object : String) : String :=
      Text.padLeft 10 (toString (bytes object)) ++ "  " ++
        Text.padLeft 6 (toString (count object)) ++ "  " ++ object
    map.objects.Nodup ∧
      (∀ object, object ∈ map.objects ↔ map.symbolsForObject object ≠ []) ∧
      map.objects.Pairwise (fun first second =>
        largestSize (map.symbolsForObject second) ≤ largestSize (map.symbolsForObject first)) ∧
      (map.objects.flatMap map.symbolsForObject ++ map.symbols.filter (·.object? = none)).Perm
        map.symbols ∧
      (∀ object, (map.symbolsForObject object).Sublist map.symbols) ∧
      (∀ (files : Files) (environment : Environment) (invocation : Invocation) (form : LogFormat)
          (analyzer : Analyzer) (events : List Event),
        invocation.logFormat environment = .ok form →
        Analyzer.load files invocation.sources = .ok (analyzer, events) →
        analyzer.map? = some map → invocation.command = .objects →
        invocation.run files environment = .success (ofLines (map.objects.map row))) ∧
      (map.objects.map bytes).sum = totalSize map.attributed ∧
      (map.objects.map count).sum = map.attributed.length := by
  intro map bytes count row
  have distinct := (LinkMap.firsts_objects map).nodup
  refine ⟨distinct, LinkMap.mem_objects_iff,
    LinkMap.pairwise_objects (LinkMap.tidy_parse text).descending,
    perm_grouped distinct LinkMap.object_mem_objects, fun object => List.filter_sublist, ?_, ?_, ?_⟩
  · intro files environment invocation form analyzer events logs loaded map? asked
    refine Invocation.run_of_report logs loaded ?_
    rw [asked, report, objectsWithSymbols_eq map?, map?]
    simp only [Bind.bind, Except.bind, objectsReport, List.map_map]
    rfl
  · have weighed := map.sum_attributed (·.size.toNat)
    rw [totalSize_eq, ← weighed]
    simp only [bytes, totalSize_eq]
  · have counted := map.sum_attributed fun _ => 1
    simpa using counted

/-- A link map in which the symbols of one object file stand around one of another, behind a symbol
that comes from none. -/
def interleavedMap : String :=
  "Symbol File\n k 0x8 0x20\n.text.g 0x10 0x9 b.o\n g 0x10 0x9\n" ++
    ".text.f 0x20 0x4 a.o\n f 0x20 0x4\n.text.h 0x30 0x2 b.o\n h 0x30 0x2\n"

/-- The file of the link map alone. -/
def interleavedFiles : Files
  | "app.map" => .ok (Text.Utf8.encode interleavedMap).toArray
  | _ => .error .missing

/-- The symbols of the link map, which mentions larger ones first. -/
def interleavedSymbols : List Symbol :=
  [⟨"k", .unknown, 0x8, 0x20, none, none, none, none⟩,
    ⟨"g", .unknown, 0x10, 0x9, none, some "b.o", none, none⟩,
    ⟨"f", .unknown, 0x20, 0x4, none, some "a.o", none, none⟩,
    ⟨"h", .unknown, 0x30, 0x2, none, some "b.o", none, none⟩]

/-- The link map lists its symbols as it mentions them. -/
theorem symbols_interleavedMap : (LinkMap.parse interleavedMap).1.symbols = interleavedSymbols := by
  have placed : placeAll larger []
      (LinkMap.collect (Text.lines interleavedMap.toList)).symbols.toList = interleavedSymbols := by
    decide +kernel
  rw [LinkMap.parse]
  dsimp only
  rw [placed, largestFirst, List.mergeSort_of_pairwise (by decide)]

/-- The rows of two object files add up to the three symbols that come from them. -/
theorem objects_partition_symbols_interleaved :
    let invocation : Invocation := ⟨none, some "app.map", none, none, .objects⟩
    let map := (LinkMap.parse interleavedMap).1
    invocation.run interleavedFiles emptyEnvironment =
        .success (ofLines ["        11       2  b.o", "         4       1  a.o"]) ∧
      map.objects = ["b.o", "a.o"] ∧ totalSize map.attributed = 11 + 4 ∧
      map.attributed.length = 2 + 1 := by
  intro invocation map
  have text : LinkMap.parse (Text.Utf8.decode (Text.Utf8.encode interleavedMap).toArray) =
      LinkMap.parse interleavedMap := by rw [Text.Utf8.decode_encode]
  have loaded : Analyzer.load interleavedFiles invocation.sources =
      .ok (⟨none, some map⟩, .loadingMap "app.map" :: (LinkMap.parse interleavedMap).2 ++
        [.creatingAnalyzer false true]) := by
    simp only [Analyzer.load, Invocation.sources, Option.map_some, Option.map_none,
      Analyzer.loadOptional, LinkMap.load, interleavedFiles, Except.mapError, Bind.bind,
      Except.bind, Pure.pure, Except.pure, invocation, text]
    rfl
  have objects : map.objects = ["b.o", "a.o"] := by
    rw [LinkMap.objects, symbols_interleavedMap]
    decide
  obtain ⟨_, _, _, _, _, shown, bytes, count⟩ := objects_partition_symbols interleavedMap
  have rows := shown _ emptyEnvironment invocation .pretty _ _ rfl loaded rfl rfl
  rw [objects] at rows bytes count
  simp only [LinkMap.symbolsForObject, symbols_interleavedMap] at rows bytes count
  refine ⟨rows.trans ?_, objects, bytes.symm, count.symm⟩
  decide +kernel

end Footprint.CommandLine
