import Footprint.Analyzer.Basic
import Footprint.Text.Column

/-! The reports of the commands, as lines of text. -/

namespace Footprint.CommandLine

/-- Lines, each with its end. -/
def ofLines (lines : List String) : String :=
  lines.foldl (fun text line => text ++ line ++ "\n") ""

/-- The number of bytes of all symbols together. -/
def totalSize (symbols : List Symbol) : Nat :=
  symbols.foldl (fun total symbol => total + symbol.size.toNat) 0

/-- A name at the left, and an address and a size at the right of their columns. -/
def sectionColumns (name address size load : String) : String :=
  Text.padRight 24 name ++ " " ++ Text.padLeft 12 address ++ " " ++ Text.padLeft 10 size ++
    "  " ++ load

/-- A section's row. -/
def sectionRow (area : Section) : String :=
  sectionColumns area.name (Text.hex area.address.toNat) (toString area.size.toNat)
    (if area.needsLoad then "yes" else "no")

/-- The report on sections. -/
def sectionsReport (sections : List Section) : String :=
  ofLines (sectionColumns "name" "address" "size" "load" :: sections.map sectionRow)

/-- A symbol's row, in which the kind is not filled up. -/
def symbolRow (symbol : Symbol) : String :=
  Text.padLeft 10 (toString symbol.size.toNat) ++ " " ++ Text.padLeft 12 symbol.hexAddress ++ " " ++
    symbol.kind.label ++ " " ++ Text.padRight 16 (symbol.sectionName?.getD "-") ++ " " ++
    symbol.displayName ++
    match symbol.object? with
    | some object => "  [" ++ object ++ "]"
    | none => ""

/-- The line above the rows of symbols. -/
def symbolHeading : String :=
  Text.padLeft 10 "size" ++ " " ++ Text.padLeft 12 "address" ++ " " ++ Text.padRight 8 "kind" ++
    " " ++ Text.padRight 16 "section" ++ " name"

/-- The number of rows shown of a list. -/
def shownCount (limit? : Option Nat) (count : Nat) : Nat := min (limit?.getD count) count

/-- The report on symbols, which sums up all of them and shows as many as the limit allows. -/
def symbolsReport (limit? : Option Nat) (symbols : List Symbol) : String :=
  let shown := shownCount limit? symbols.length
  let summary := toString shown ++ " of " ++ toString symbols.length ++ " symbols shown, " ++
    toString (totalSize symbols) ++ " bytes total"
  ofLines (symbolHeading :: (symbols.take shown).map symbolRow ++ ["", summary])

/-- The row of an object file: the size of its symbols, their number and its name. -/
def objectRow (object : String) (symbols : List Symbol) : String :=
  Text.padLeft 10 (toString (totalSize symbols)) ++ "  " ++
    Text.padLeft 6 (toString symbols.length) ++ "  " ++ object

/-- The report on object files. -/
def objectsReport (objects : List (String × List Symbol)) : String :=
  ofLines (objects.map fun (object, symbols) => objectRow object symbols)

/-- What is said of object files where no link map is given. -/
def objectsNote : String :=
  "Note: object files are only known when a MAP file is given (--map).\n"

/-- The report on a symbol that was looked up. -/
def lookupReport (name : String) : Option Symbol → String
  | none => ofLines ["Symbol not found: " ++ name]
  | some symbol =>
    let demangled := match symbol.demangled? with
      | some text => ["  Demangled: " ++ text]
      | none => []
    let source := match symbol.sourceLocation? with
      | some location => location.text
      | none => "no debug info available"
    ofLines (["", "Symbol Information:", "  Name: " ++ symbol.name] ++ demangled ++
      ["  Language: " ++ symbol.language.label,
        "  Kind: " ++ symbol.kind.label,
        "  Address: " ++ symbol.hexAddress,
        "  Size: " ++ toString symbol.size.toNat ++ " bytes",
        "  Section: " ++ symbol.sectionName?.getD "-",
        "  Object: " ++ symbol.object?.getD "-",
        "  Source: " ++ source])

/-- A line table row, marked at the end of a sequence. -/
def lineRow (row : LineProgram.Row) : String :=
  Text.hex8 row.address.toNat ++ "  " ++ row.location.text ++ if row.endSequence then " end" else ""

/-- The report on the rows of a line table. -/
def linesReport (limit? : Option Nat) (rows : List LineProgram.Row) : String :=
  ofLines ((rows.take (shownCount limit? rows.length)).map lineRow)

end Footprint.CommandLine
