import Footprint.Event
import Footprint.LinkMap.Keyed
import Footprint.LinkMap.Line

/-! Link maps: the symbols that a linker placed, and the object files it took them from. -/

namespace Footprint

/-- The symbols of a link map, larger ones first, of which no two share a name and an address. -/
structure LinkMap where
  symbols : List Symbol
deriving DecidableEq, Repr

namespace LinkMap

/-- The symbol of a placement that has a size and whose numbers fit machine words. -/
def Placement.symbol? (placement : Placement) (object? : Option String) : Option Symbol := do
  let address ← hexWord? placement.address
  let size ← hexWord? placement.size
  -- A placement without a size takes no memory.
  if size = 0 then none
  else return {
    name := String.ofList placement.name
    kind := .unknown
    address
    size
    sectionName? := none
    object?
    sourceFile? := none
    sourceLine? := none }

/-- The object file in force, all object files named so far, and the symbols collected so far. -/
structure Progress where
  object? : Option String
  objects : Array String
  symbols : Array Symbol

/-- A line may name an object file, which is in force from there on, or a symbol. -/
def Progress.push (progress : Progress) (line : List Char) : Progress :=
  let progress :=
    match LinkMap.object? line with
    | some path =>
      let object := String.ofList path
      { progress with object? := some object, objects := progress.objects.push object }
    | none => progress
  match (placement? line).bind (·.symbol? progress.object?) with
  | some symbol => { progress with symbols := progress.symbols.push symbol }
  | none => progress

/-- The lines behind the first heading that are no headings themselves. -/
def body (lines : List (List Char)) : List (List Char) :=
  (lines.dropWhile (!isHeading ·)).filter (!isHeading ·)

/-- The object files and the symbols that lines name, in their order. -/
def collect (lines : List (List Char)) : Progress :=
  (body lines).foldl Progress.push ⟨none, #[], #[]⟩

/-- The link map in a text, and what is reported of it. -/
def parse (text : String) : LinkMap × List Event :=
  let lines := Text.lines text.toList
  -- Symbols that are named several times are listed once.
  let progress := collect lines
  let symbols := Symbol.largestFirst (Symbol.placeAll Symbol.larger [] progress.symbols.toList)
  let events := progress.objects.toList.map Event.mapObject
  (⟨symbols⟩, events ++ [.parsedMap symbols.length (lines.any isHeading)])

/-- The symbols of an object file, larger ones first. -/
def symbolsForObject (map : LinkMap) (object : String) : List Symbol :=
  map.symbols.filter (·.object? = some object)

/-- The texts of a list that do not stand earlier in it. -/
def distinct (seen : List String) : List String → List String
  | [] => []
  | text :: rest =>
    if seen.contains text then distinct seen rest else text :: distinct (text :: seen) rest

/-- The object files of the symbols, each once, ordered by their largest symbol. -/
def objects (map : LinkMap) : List String := distinct [] (map.symbols.filterMap (·.object?))

/-- The symbols of an image and of the map, one for each name and address, where the image has
the word and the map fills in object files. -/
def merge (map : LinkMap) (symbols : List Symbol) : List Symbol :=
  -- Of several symbols of the image with one key, the last one counts.
  let own := Symbol.placeAll Symbol.latest [] symbols
  Symbol.largestFirst (Symbol.placeAll Symbol.fillObject own map.symbols)

end LinkMap

end Footprint
