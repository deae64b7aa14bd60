import Footprint.CommandLine.Arguments
import Footprint.CommandLine.Report

/-! What a command line does: its status, its report and its messages. -/

namespace Footprint.CommandLine

/-- The status, the report and the messages of a run. -/
structure Outcome where
  status : Nat
  output : String
  messages : String
deriving DecidableEq, Repr

namespace Outcome

/-- A run that answers. -/
def success (output : String) : Outcome := ⟨0, output, ""⟩

/-- A run that fails, which reports nothing. -/
def failure (messages : String) : Outcome := ⟨1, "", messages⟩

/-- A command line that is not understood. -/
def refused (messages : String) : Outcome := ⟨2, "", messages⟩

end Outcome

/-- The program and its version. -/
def versionText : String := "symscope 0.0.0\n"

/-- How the program is called. -/
def usageText : String :=
  ofLines
    ["Usage: symscope [--elf FILE] [--map FILE] [--log-level LEVEL] [--log-format FORMAT] COMMAND",
      "",
      "Commands:",
      "  sections [--all]",
      "  symbols [-s SECTION] [-o OBJECT] [-n LIMIT]",
      "  objects",
      "  lookup NAME",
      "  lines [-n LIMIT]"]

/-- The symbols that a section and an object file select; with both, of all symbols those that
lie in the one and come from the other. -/
def selected (analyzer : Analyzer) (section? object? : Option String) :
    Except Error (List Symbol) :=
  match section?, object? with
  | some name, none => analyzer.symbolsInSection name
  | none, some object => analyzer.symbolsForObject object
  | _, _ => do
    let inSection := fun (symbol : Symbol) => section?.all (symbol.sectionName? = some ·)
    let fromObject := fun (symbol : Symbol) => object?.all (symbol.object? = some ·)
    return ((← analyzer.allSymbols).filter inSection).filter fromObject

/-- The object files with their symbols. -/
def objectsWithSymbols (analyzer : Analyzer) : Except Error (List (String × List Symbol)) :=
  analyzer.objects.mapM fun object => return (object, ← analyzer.symbolsForObject object)

/-- The report and the messages of a command, unless a question of it fails. -/
def report (analyzer : Analyzer) : Command → Except Error (String × String)
  | .sections all => do
    let sections ← if all then analyzer.sections else analyzer.sectionsWithSymbols
    return (sectionsReport sections, "")
  | .symbols section? object? limit? => do
    return (symbolsReport limit? (← selected analyzer section? object?), "")
  | .objects => do
    let note := if analyzer.map?.isSome then "" else objectsNote
    return (objectsReport (← objectsWithSymbols analyzer), note)
  | .lookup name => do
    return (lookupReport name (← (analyzer.symbolWithDebugInfo name none).answer), "")
  | .lines limit? => do
    let image ← analyzer.image
    return (linesReport limit? (image.lines none).answer.rows, "")

/-- The inputs of an invocation. -/
def Invocation.sources (invocation : Invocation) : Sources :=
  ⟨invocation.elf?.map .file, invocation.map?.map .file⟩

/-- The variable that names the form of log entries. -/
def formatVariable : String := "SYMSCOPE_LOG_FORMAT"

/-- The form of log entries: the environment is only asked where no log option is given. -/
def Invocation.logFormat (invocation : Invocation) (environment : Environment) :
    Except LoggingFault LogFormat :=
  match invocation.logLevel?, invocation.logFormat?, environment formatVariable with
  | none, none, some text => LogFormat.parse text
  | _, format?, _ => .ok (format?.getD .pretty)

/-- Loads the inputs and answers the command. -/
def answer (files : Files) (invocation : Invocation) : Except Error (String × String) := do
  let (analyzer, _) ← Analyzer.load files invocation.sources
  report analyzer invocation.command

/-- The outcome of an invocation, which fails as a whole where logging, loading or a question
fails. -/
def Invocation.run (files : Files) (environment : Environment) (invocation : Invocation) :
    Outcome :=
  match invocation.logFormat environment with
  | .error fault => .failure ("Failed to initialize logging: " ++ fault.message ++ "\n")
  | .ok _ =>
    match answer files invocation with
    | .error cause => .failure ("Error: " ++ cause.message ++ "\n")
    | .ok (output, messages) => ⟨0, output, messages⟩

/-- The outcome of a command line. -/
def run (files : Files) (environment : Environment) (arguments : List String) : Outcome :=
  match request environment arguments with
  | .error _ => .refused usageText
  | .ok .help => .success usageText
  | .ok .version => .success versionText
  | .ok (.run invocation) => invocation.run files environment

end Footprint.CommandLine
