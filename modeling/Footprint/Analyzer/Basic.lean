import Footprint.Elf.Query
import Footprint.LinkMap.Load

/-! An image and a link map of one firmware, and the questions that they answer together. -/

namespace Footprint

/-- Where an analyzer takes its image and its link map from. -/
structure Sources where
  elf? : Option (Source Bytes)
  map? : Option (Source String)
deriving DecidableEq, Repr

namespace Sources

/-- No inputs. -/
def none : Sources := ⟨.none, .none⟩

/-- The inputs with another image. -/
def withElf (sources : Sources) (source : Source Bytes) : Sources :=
  { sources with elf? := some source }

/-- The inputs with another link map. -/
def withMap (sources : Sources) (source : Source String) : Sources :=
  { sources with map? := some source }

end Sources

/-- An image, a link map, both or neither. -/
structure Analyzer where
  elf? : Option Elf.Image
  map? : Option LinkMap
deriving DecidableEq, Repr

namespace Analyzer

/-- An input that may be left out, loaded if it is there. -/
def loadOptional {α β : Type} (load : α → Except Error (β × List Event)) :
    Option α → Except Error (Option β × List Event)
  | none => .ok (none, [])
  | some source => do
    let (value, events) ← load source
    return (some value, events)

/-- The analyzer of some inputs, of which the image is loaded first, and what is reported of it. -/
def load (files : Files) (sources : Sources) : Except Error (Analyzer × List Event) := do
  let (elf?, elfEvents) ← loadOptional (Elf.Image.load files) sources.elf?
  let (map?, mapEvents) ← loadOptional (LinkMap.load files) sources.map?
  let created := .creatingAnalyzer elf?.isSome map?.isSome
  return (⟨elf?, map?⟩, elfEvents ++ mapEvents ++ [created])

/-- The image, which some questions need. -/
def image (analyzer : Analyzer) : Except Error Elf.Image :=
  match analyzer.elf? with
  | some image => .ok image
  | none => .error .elfNotLoaded

/-- The sections that have a name, in the order of their headers. -/
def sections (analyzer : Analyzer) : Except Error (List Section) :=
  return (← analyzer.image).sections

/-- The sections in which symbols lie, in the order of their headers. -/
def sectionsWithSymbols (analyzer : Analyzer) : Except Error (List Section) := do
  let image ← analyzer.image
  let owners := (← image.symbols).filterMap (·.sectionName?)
  return image.sections.filter fun area => owners.contains area.name

/-- The symbols in a section of the image, larger ones first. -/
def symbolsInSection (analyzer : Analyzer) (name : String) : Except Error (List Symbol) := do
  (← analyzer.image).symbolsInSection name

/-- All symbols, larger ones first; those of an image and of a link map are merged. -/
def allSymbols (analyzer : Analyzer) : Except Error (List Symbol) :=
  match analyzer.elf?, analyzer.map? with
  | some image, some map => return map.merge (← image.symbols)
  | some image, none => image.symbols
  | none, some map => .ok map.symbols
  | none, none => .error .nothingLoaded

/-- The symbols of an object file, larger ones first; a link map answers alone. -/
def symbolsForObject (analyzer : Analyzer) (object : String) : Except Error (List Symbol) :=
  match analyzer.map? with
  | some map => .ok (map.symbolsForObject object)
  | none => return (← analyzer.allSymbols).filter (·.object? = some object)

/-- The object files, each once, which only a link map knows. -/
def objects (analyzer : Analyzer) : List String :=
  match analyzer.map? with
  | some map => map.objects
  | none => []

/-- The first symbol with a name, which is a largest one of that name. -/
def symbolNamed? (symbols : List Symbol) (name : String) : Option Symbol :=
  symbols.find? (·.name = name)

/-- The source location of a symbol; data has none, so that its line table is not needed. -/
def locate (image : Elf.Image) (symbol : Symbol) (cache : Elf.LineCache) :
    Elf.Reply (Option SourceLocation) :=
  if symbol.kind = .object then .plain none cache
  else (image.lineInfo symbol.address cache).map (·.map LineProgram.Row.location)

/-- The source location of the symbol with a name; a failed search is reported and finds nothing. -/
def symbolDebugInfo (analyzer : Analyzer) (name : String) (cache : Elf.LineCache) :
    Elf.Reply (Option SourceLocation) :=
  match analyzer.elf? with
  | none => .plain none cache
  | some image =>
    match analyzer.allSymbols with
    | .error cause => ⟨none, [.lookupFailed name cause], cache⟩
    | .ok symbols =>
      match symbolNamed? symbols name with
      | none => .plain none cache
      | some symbol => locate image symbol cache

/-- The symbol with a name, with its source location if it has one. -/
def symbolWithDebugInfo (analyzer : Analyzer) (name : String) (cache : Elf.LineCache) :
    Elf.Reply (Except Error (Option Symbol)) :=
  match analyzer.allSymbols with
  | .error cause => .plain (.error cause) cache
  | .ok symbols =>
    match symbolNamed? symbols name, analyzer.elf? with
    | none, _ => .plain (.ok none) cache
    | some symbol, none => .plain (.ok (some symbol)) cache
    | some symbol, some image =>
      (locate image symbol cache).map fun location? =>
        match location? with
        | some location => .ok (some (symbol.withSource location))
        | none => .ok (some symbol)

end Analyzer

end Footprint
