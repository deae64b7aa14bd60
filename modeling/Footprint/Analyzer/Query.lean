import Footprint.Analyzer.Basic

/-! Questions to an analyzer, one after the other. -/

namespace Footprint.Analyzer

/-- A question to an analyzer. -/
inductive Query where
  | sections
  | sectionsWithSymbols
  | symbolsInSection (name : String)
  | allSymbols
  | symbolsForObject (object : String)
  | objects
  | symbolDebugInfo (name : String)
  | symbolWithDebugInfo (name : String)
  /-- A question to the image, which answers nothing without one. -/
  | image (query : Elf.Query)
deriving DecidableEq, Repr

/-- An answer of an analyzer. -/
inductive Answer where
  | sections (sections : Except Error (List Section))
  | symbols (symbols : Except Error (List Symbol))
  | objects (objects : List String)
  | location (location? : Option SourceLocation)
  | symbol (symbol? : Except Error (Option Symbol))
  | image (answer? : Option Elf.Answer)

/-- The reply of an analyzer to a question. -/
def reply (analyzer : Analyzer) (query : Query) (cache : Elf.LineCache) : Elf.Reply Answer :=
  match query with
  | .sections => .plain (.sections analyzer.sections) cache
  | .sectionsWithSymbols => .plain (.sections analyzer.sectionsWithSymbols) cache
  | .symbolsInSection name => .plain (.symbols (analyzer.symbolsInSection name)) cache
  | .allSymbols => .plain (.symbols analyzer.allSymbols) cache
  | .symbolsForObject object => .plain (.symbols (analyzer.symbolsForObject object)) cache
  | .objects => .plain (.objects analyzer.objects) cache
  | .symbolDebugInfo name => (analyzer.symbolDebugInfo name cache).map .location
  | .symbolWithDebugInfo name => (analyzer.symbolWithDebugInfo name cache).map .symbol
  | .image query =>
    match analyzer.elf? with
    | none => .plain (.image none) cache
    | some image => (image.reply query cache).map fun answer => .image (some answer)

/-- The replies to questions asked one after the other. -/
def replies (analyzer : Analyzer) (cache : Elf.LineCache) : List Query → List (Elf.Reply Answer)
  | [] => []
  | query :: queries =>
    let reply := analyzer.reply query cache
    reply :: replies analyzer reply.cache queries

end Footprint.Analyzer
