import Footprint.CommandLine.Run
import Footprint.Proofs.Cursor.Watched
import Footprint.Proofs.CommandLine.Objects

/-! Reports that are printed row by row while questions are still asked and sizes added up. What is
printed stays printed where a later question fails, and a sum or a slice that is out of range stops
the program on the spot. Printed this way, a report comes out whole or not at all. -/

namespace Footprint.CommandLine

/-- What a program has printed so far. -/
structure Pages where
  output : String
  messages : String
deriving DecidableEq, Repr

/-- A part of a program that prints, and goes on with a value or ends with an error unless a trap
stops it; an error takes nothing back. -/
abbrev Printing (α : Type) := ExceptT Error (StateT Pages (Except Trap)) α

/-- Prints a line of the report. -/
def printLine (line : String) : Printing Unit :=
  modify fun pages => { pages with output := pages.output ++ (line ++ "\n") }

/-- Prints lines of the report, one after the other. -/
def printLines (lines : List String) : Printing Unit := lines.forM printLine

/-- Adds a text to the messages. -/
def say (text : String) : Printing Unit :=
  modify fun pages => { pages with messages := pages.messages ++ text }

/-- Goes on with an answer, or ends with its error. -/
def ask {α : Type} (answer : Except Error α) : Printing α := ExceptT.mk (pure answer)

/-- Goes on with the value of a run. -/
def watched {α : Type} (run : Run Error α) : Printing α := ExceptT.mk (StateT.lift run.run)

/-- The number of bytes of all symbols together, in eight bytes. -/
def summed (symbols : List Symbol) : Run Error Nat :=
  symbols.foldlM (fun total symbol => Run.counted (total + symbol.size.toNat)) 0

/-- As many symbols from the start of a list as there should be. -/
def firsts (symbols : List Symbol) (count : Nat) : Run Error (List Symbol) :=
  if count ≤ symbols.length then return symbols.take count
  else Run.trap (.slice 0 count symbols.length)

/-- The line below the rows of symbols. -/
def symbolSummary (shown count total : Nat) : String :=
  toString shown ++ " of " ++ toString count ++ " symbols shown, " ++ toString total ++
    " bytes total"

/-- Prints the report on symbols. -/
def printSymbols (limit? : Option Nat) (symbols : List Symbol) : Printing Unit := do
  let total ← watched (summed symbols)
  let shown := shownCount limit? symbols.length
  printLine symbolHeading
  let rows ← watched (firsts symbols shown)
  printLines (rows.map symbolRow)
  printLines ["", symbolSummary shown symbols.length total]

/-- Says that object files are not known without a link map. -/
def sayUnknown (analyzer : Analyzer) : Printing Unit :=
  if analyzer.map?.isSome then pure () else say objectsNote

/-- Asks for the symbols of an object file and prints its row. -/
def printObject (analyzer : Analyzer) (object : String) : Printing Unit := do
  let symbols ← ask (analyzer.symbolsForObject object)
  let total ← watched (summed symbols)
  printLine (Text.padLeft 10 (toString total) ++ "  " ++
    Text.padLeft 6 (toString symbols.length) ++ "  " ++ object)

/-- Prints where a symbol is from, if that is known. -/
def printOrigin (symbol : Symbol) : Printing Unit :=
  match symbol.sourceLocation? with
  | some location => printLine ("  Source: " ++ location.text)
  | none => printLine "  Source: no debug info available"

/-- Prints what is known of a symbol. -/
def printDetails (symbol : Symbol) : Printing Unit := do
  printLines ["", "Symbol Information:", "  Name: " ++ symbol.name]
  symbol.demangled?.forM fun text => printLine ("  Demangled: " ++ text)
  printLines
    ["  Language: " ++ symbol.language.label,
      "  Kind: " ++ symbol.kind.label,
      "  Address: " ++ symbol.hexAddress,
      "  Size: " ++ toString symbol.size.toNat ++ " bytes",
      "  Section: " ++ symbol.sectionName?.getD "-",
      "  Object: " ++ symbol.object?.getD "-"]
  printOrigin symbol

/-- Asks what a command needs to know and prints its report. -/
def present (analyzer : Analyzer) : Command → Printing Unit
  | .sections all => do
    let sections ← ask (if all then analyzer.sections else analyzer.sectionsWithSymbols)
    printLine (sectionColumns "name" "address" "size" "load")
    printLines (sections.map sectionRow)
  | .symbols section? object? limit? => do
    printSymbols limit? (← ask (selected analyzer section? object?))
  | .objects => do
    sayUnknown analyzer
    analyzer.objects.forM (printObject analyzer)
  | .lookup name => do
    match ← ask (analyzer.symbolWithDebugInfo name none).answer with
    | none => printLine ("Symbol not found: " ++ name)
    | some symbol => printDetails symbol
  | .lines limit? => do
    let rows := (← ask analyzer.image).lines none |>.answer.rows
    -- No table is longer than the limit that counts where none is given.
    printLines ((rows.take (shownCount limit? rows.length)).map lineRow)

section Writes

variable {α β : Type}

/-- A part that no trap stops, which ends in this result and prints this on its way. -/
def Writes (printing : Printing α) (result : Except Error α) (output messages : String) : Prop :=
  ∀ pages : Pages, printing.run.run pages =
    .ok (result, ⟨pages.output ++ output, pages.messages ++ messages⟩)

variable {first : Printing α} {use : α → Printing β} {value : α} {result : Except Error β}
  {output messages laterOutput laterMessages : String}

/-- A part that prints some text and nothing else. -/
def Prints (printing : Printing Unit) (output : String) : Prop := Writes printing (.ok ()) output ""

/-- A line is printed with its end. -/
theorem prints_line (line : String) : Prints (printLine line) (line ++ "\n") := by
  intro pages
  simp [printLine]
  rfl

/-- What is said is a message. -/
theorem writes_say (text : String) : Writes (say text) (.ok ()) "" text := by
  intro pages
  simp [say]
  rfl

/-- An answer prints nothing, and is the result. -/
theorem writes_ask (answer : Except Error α) : Writes (ask answer) answer "" "" := by
  intro pages
  simp only [String.append_empty]
  rfl

/-- What two parts print in a row is printed in a row. -/
theorem Writes.bind (early : Writes first (.ok value) output messages)
    (late : Writes (use value) result laterOutput laterMessages) :
    Writes (first >>= use) result (output ++ laterOutput) (messages ++ laterMessages) := by
  intro pages
  have rest := late ⟨pages.output ++ output, pages.messages ++ messages⟩
  simp only [ExceptT.run_bind, StateT.run_bind, early pages, String.append_assoc] at rest ⊢
  exact rest

/-- Where a part ends with an error, nothing more is printed. -/
theorem Writes.bind_error {cause : Error} (failed : Writes first (.error cause) output messages) :
    Writes (first >>= use) (.error cause) output messages := by
  intro pages
  simp only [ExceptT.run_bind, StateT.run_bind, failed pages]
  rfl

/-- An answer that is there is a value that is already known. -/
@[simp]
theorem ask_ok (value : α) : ask (.ok value) = (pure value : Printing α) := rfl

/-- A run that is a value is one that is already known. -/
@[simp]
theorem watched_pure (value : α) : watched (pure value) = (pure value : Printing α) := rfl

end Writes

section Lines

/-- Lines are written behind what is there. -/
theorem foldl_lines (text : String) (lines : List String) :
    lines.foldl (fun text line => text ++ line ++ "\n") text = text ++ ofLines lines := by
  induction lines generalizing text with
  | nil => simp [ofLines]
  | cons line rest ih =>
    rw [ofLines, List.foldl_cons, List.foldl_cons, ih, ih ("" ++ line ++ "\n")]
    simp only [String.empty_append, String.append_assoc]

/-- The first of some lines comes first. -/
@[simp]
theorem ofLines_cons (line : String) (rest : List String) :
    ofLines (line :: rest) = line ++ "\n" ++ ofLines rest := by
  rw [ofLines, List.foldl_cons, foldl_lines, String.empty_append]

/-- Lines behind others are written behind them. -/
@[simp]
theorem ofLines_append (lines rest : List String) :
    ofLines (lines ++ rest) = ofLines lines ++ ofLines rest := by
  rw [ofLines, List.foldl_append, foldl_lines]
  rfl

variable {α : Type} {first rest : Printing Unit} {output later : String}

/-- What two parts print in a row is printed in a row. -/
theorem Prints.bind (early : Prints first output) (late : Prints rest later) :
    Prints (first >>= fun _ => rest) (output ++ later) := by
  have both : Writes (first >>= fun _ => rest) (.ok ()) (output ++ later) ("" ++ "") :=
    Writes.bind early late
  rwa [String.append_empty] at both

/-- Parts that each print a line print these lines. -/
theorem prints_forM {each : α → Printing Unit} {line : α → String} (values : List α)
    (prints : ∀ value ∈ values, Prints (each value) (line value ++ "\n")) :
    Prints (values.forM each) (ofLines (values.map line)) := by
  induction values with
  | nil =>
    intro pages
    simp [ofLines]
    rfl
  | cons value values ih =>
    obtain ⟨early, late⟩ := List.forall_mem_cons.mp prints
    rw [List.map_cons, ofLines_cons]
    exact early.bind (ih late)

/-- Lines are printed one after the other. -/
theorem prints_lines (lines : List String) : Prints (printLines lines) (ofLines lines) := by
  have each : Prints (lines.forM printLine) (ofLines (lines.map id)) :=
    prints_forM lines fun line _ => prints_line line
  rwa [List.map_id] at each

end Lines

/-- Each part of a sum that fits eight bytes fits them too. -/
theorem summed_from (symbols : List Symbol) (start : Nat)
    (fits : start + totalSize symbols < UInt64.size) :
    symbols.foldlM (fun total symbol => Run.counted (total + symbol.size.toNat)) start =
      (pure (start + totalSize symbols) : Run Error Nat) := by
  induction symbols generalizing start with
  | nil => rfl
  | cons symbol rest ih =>
    have split : totalSize (symbol :: rest) = symbol.size.toNat + totalSize rest := by
      simp [totalSize_eq]
    rw [split, ← Nat.add_assoc] at fits ⊢
    have early : start + symbol.size.toNat < UInt64.size := by omega
    rw [List.foldlM_cons, Run.counted_eq_pure early, pure_bind, ih _ fits]

/-- Sizes that fit eight bytes together are summed up. -/
theorem summed_eq_pure {symbols : List Symbol} (fits : totalSize symbols < UInt64.size) :
    summed symbols = pure (totalSize symbols) := by
  have sum := summed_from symbols 0
  rw [Nat.zero_add] at sum
  exact sum fits

/-- No limit asks for more symbols than there are. -/
theorem firsts_shownCount (limit? : Option Nat) (symbols : List Symbol) :
    firsts symbols (shownCount limit? symbols.length) =
      pure (symbols.take (shownCount limit? symbols.length)) :=
  if_pos (Nat.min_le_right _ _)

section Present

/-- Symbols are reported whatever the limit is. -/
theorem prints_symbols (limit? : Option Nat) {symbols : List Symbol}
    (fits : totalSize symbols < UInt64.size) :
    Prints (printSymbols limit? symbols) (symbolsReport limit? symbols) := by
  rw [printSymbols, summed_eq_pure fits]
  simp only [watched_pure, pure_bind, firsts_shownCount]
  have printed := (prints_line symbolHeading).bind
    ((prints_lines ((symbols.take (shownCount limit? symbols.length)).map symbolRow)).bind
      (prints_lines ["", symbolSummary (shownCount limit? symbols.length) symbols.length
        (totalSize symbols)]))
  rw [← ofLines_append, ← ofLines_cons] at printed
  exact printed

/-- Where a symbol is from is told in one line. -/
theorem prints_origin (symbol : Symbol) :
    Prints (printOrigin symbol) (ofLines ["  Source: " ++
      (symbol.sourceLocation?.map SourceLocation.text).getD "no debug info available"]) := by
  rw [printOrigin]
  cases symbol.sourceLocation? with
  | some location => exact prints_lines ["  Source: " ++ location.text]
  | none => exact prints_lines ["  Source: no debug info available"]

/-- What is known of a symbol is reported line by line. -/
theorem prints_details (name : String) (symbol : Symbol) :
    Prints (printDetails symbol) (lookupReport name (some symbol)) := by
  have opening := prints_lines ["", "Symbol Information:", "  Name: " ++ symbol.name]
  have mangling : Prints (symbol.demangled?.forM fun text => printLine ("  Demangled: " ++ text))
      (ofLines (symbol.demangled?.map ("  Demangled: " ++ ·)).toList) := by
    cases symbol.demangled? with
    | some text => exact prints_lines ["  Demangled: " ++ text]
    | none => exact prints_lines []
  have middle := prints_lines
    ["  Language: " ++ symbol.language.label, "  Kind: " ++ symbol.kind.label,
      "  Address: " ++ symbol.hexAddress, "  Size: " ++ toString symbol.size.toNat ++ " bytes",
      "  Section: " ++ symbol.sectionName?.getD "-", "  Object: " ++ symbol.object?.getD "-"]
  have printed := opening.bind (mangling.bind (middle.bind (prints_origin symbol)))
  rw [← ofLines_append, ← ofLines_append, ← ofLines_append, ← List.append_assoc] at printed
  -- The report tells the same lines, whether the name demangles and the source is known or not.
  rw [printDetails]
  convert printed using 1
  refine congrArg ofLines ?_
  cases symbol.demangled? <;> cases symbol.sourceLocation? <;> rfl

/-- The symbols that an answer lists, if it is no error. -/
def listed (answer : Except Error (List Symbol)) : List Symbol := answer.toOption.getD []

/-- An object file that is known has symbols to ask for: it is the link map that knows it, and a link
map answers alone. -/
theorem symbolsForObject_of_mem {analyzer : Analyzer} {object : String}
    (known : object ∈ analyzer.objects) :
    analyzer.symbolsForObject object = .ok (listed (analyzer.symbolsForObject object)) := by
  cases map? : analyzer.map? with
  | none => simp [Analyzer.objects, map?] at known
  | some map =>
    have answers : analyzer.symbolsForObject object = .ok (map.symbolsForObject object) := by
      rw [Analyzer.symbolsForObject, map?]
    rw [answers]
    rfl

/-- The object files are listed with their symbols without fail. -/
theorem objectsWithSymbols_eq_ok (analyzer : Analyzer) :
    objectsWithSymbols analyzer = .ok (analyzer.objects.map fun object =>
      (object, listed (analyzer.symbolsForObject object))) := by
  cases map? : analyzer.map? with
  | none =>
    rw [objectsWithSymbols, Analyzer.objects, map?]
    rfl
  | some map =>
    rw [objectsWithSymbols_eq map?]
    simp only [Analyzer.objects, Analyzer.symbolsForObject, map?]
    rfl

/-- The report on object files, which never fails. -/
theorem report_objects (analyzer : Analyzer) :
    report analyzer .objects =
      .ok (ofLines (analyzer.objects.map fun object =>
          objectRow object (listed (analyzer.symbolsForObject object))),
        if analyzer.map?.isSome then "" else objectsNote) := by
  rw [report, objectsWithSymbols_eq_ok]
  simp only [Bind.bind, Except.bind, objectsReport, List.map_map]
  rfl

/-- A known object file is asked for its symbols and reported in its row. -/
theorem prints_object {analyzer : Analyzer} {object : String} (known : object ∈ analyzer.objects)
    (fits : totalSize (listed (analyzer.symbolsForObject object)) < UInt64.size) :
    Prints (printObject analyzer object)
      (objectRow object (listed (analyzer.symbolsForObject object)) ++ "\n") := by
  rw [printObject, symbolsForObject_of_mem known]
  simp only [ask_ok, pure_bind]
  rw [summed_eq_pure fits, watched_pure, pure_bind]
  exact prints_line _

/-- The sums of sizes that a command forms. -/
def sums (analyzer : Analyzer) : Command → List Nat
  | .symbols section? object? _ => [totalSize (listed (selected analyzer section? object?))]
  | .objects =>
    analyzer.objects.map fun object => totalSize (listed (analyzer.symbolsForObject object))
  | .sections _ | .lookup _ | .lines _ => []

/-- A part that prints a report and messages, or else ends with an error and prints nothing. -/
def Presents (printing : Printing Unit) : Except Error (String × String) → Prop
  | .ok (output, messages) => Writes printing (.ok ()) output messages
  | .error cause => Writes printing (.error cause) "" ""

/-- A report on one answer, which is printed once the answer is there. -/
theorem presents_ask {α : Type} {answer : Except Error α} {print : α → Printing Unit}
    {text : α → String} (prints : ∀ value, answer = .ok value → Prints (print value) (text value)) :
    Presents (ask answer >>= print) (answer >>= fun value => pure (text value, "")) := by
  cases answer with
  | error cause => exact (writes_ask _).bind_error
  | ok value => exact prints value rfl

/-- A command prints its report, or nothing where a question of it fails. -/
theorem presents_report {analyzer : Analyzer} {command : Command}
    (fits : ∀ sum ∈ sums analyzer command, sum < UInt64.size) :
    Presents (present analyzer command) (report analyzer command) := by
  cases command with
  | sections all =>
    -- All sections are asked for, or those with symbols only.
    cases all with
    | true => exact presents_ask fun sections _ => prints_lines (_ :: sections.map sectionRow)
    | false => exact presents_ask fun sections _ => prints_lines (_ :: sections.map sectionRow)
  | symbols section? object? limit? =>
    refine presents_ask fun symbols selects => prints_symbols limit? ?_
    have sum := fits _ (List.mem_singleton.mpr rfl)
    rwa [selects] at sum
  | objects =>
    have rows : Prints (analyzer.objects.forM (printObject analyzer)) _ :=
      prints_forM analyzer.objects fun object known =>
        prints_object known (fits _ (List.mem_map_of_mem known))
    have note : Writes (sayUnknown analyzer) (.ok ()) ""
        (if analyzer.map?.isSome then "" else objectsNote) := by
      rw [sayUnknown]
      split
      · exact writes_ask (.ok ())
      · exact writes_say objectsNote
    have printed : Writes (present analyzer .objects) (.ok ()) _ _ := Writes.bind note rows
    rw [String.empty_append, String.append_empty] at printed
    rw [report_objects]
    exact printed
  | lookup name =>
    refine presents_ask fun symbol? _ => ?_
    cases symbol? with
    | none => exact prints_lines [_]
    | some symbol => exact prints_details name symbol
  | lines limit? => exact presents_ask fun image _ => prints_lines _

end Present

end Footprint.CommandLine
