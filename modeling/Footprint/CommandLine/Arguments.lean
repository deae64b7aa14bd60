import Footprint.Logging

/-! The arguments of the command line: options, commands and what they ask for. -/

namespace Footprint.CommandLine

/-- What is to be shown. -/
inductive Command where
  /-- The sections of the image, also those without symbols if all are wanted. -/
  | sections (all : Bool)
  /-- Symbols, of one section or one object file, up to a number of rows. -/
  | symbols (name? object? : Option String) (limit? : Option Nat)
  | objects
  /-- One symbol with its source location. -/
  | lookup (name : String)
  /-- The line table, up to a number of rows. -/
  | lines (limit? : Option Nat)
deriving DecidableEq, Repr

/-- The words that commands are called by. -/
inductive CommandWord where
  | sections
  | symbols
  | objects
  | lookup
  | lines
deriving DecidableEq, Repr

/-- The command a word calls. -/
def CommandWord.ofText? : String → Option CommandWord
  | "sections" => some .sections
  | "symbols" => some .symbols
  | "objects" => some .objects
  | "lookup" => some .lookup
  | "lines" => some .lines
  | _ => none

/-- The options that have a value. -/
inductive Valued where
  | elf
  | map
  | logLevel
  | logFormat
  | section
  | object
  | limit
deriving DecidableEq, Repr

/-- An option, which has a value or is a mere flag. -/
inductive Switch where
  | valued (option : Valued)
  | all
  | help
  | version
deriving DecidableEq, Repr

/-- Why a command line is refused. -/
inductive Refusal where
  | unknownArgument (text : String)
  | unneededValue (text : String)
  | missingValue (text : String)
  | invalidValue (option : Valued) (value : String)
  | repeated (text : String)
  | missingCommand
  | missingName
deriving DecidableEq, Repr

/-- The options that every command takes, by their long names. -/
def commonOption? : String → Option Switch
  | "elf" => some (.valued .elf)
  | "map" => some (.valued .map)
  | "log-level" => some (.valued .logLevel)
  | "log-format" => some (.valued .logFormat)
  | "help" => some .help
  | _ => none

/-- The option with a long name, before the command or behind its word. -/
def longOption? (word? : Option CommandWord) (name : String) : Option Switch :=
  match commonOption? name with
  | some option => some option
  | none =>
    match word?, name with
    | none, "version" => some .version
    | some .sections, "all" => some .all
    | some .symbols, "section" => some (.valued .section)
    | some .symbols, "object" => some (.valued .object)
    | some .symbols, "limit" => some (.valued .limit)
    | some .lines, "limit" => some (.valued .limit)
    | _, _ => none

/-- The option with a short name, before the command or behind its word. -/
def shortOption? (word? : Option CommandWord) (name : Char) : Option Switch :=
  match word?, name with
  | _, 'h' => some .help
  | none, 'V' => some .version
  | some .symbols, 's' => some (.valued .section)
  | some .symbols, 'o' => some (.valued .object)
  | some .symbols, 'n' => some (.valued .limit)
  | some .lines, 'n' => some (.valued .limit)
  | _, _ => none

/-- A number of rows: decimal digits, behind a plus sign if there is one, that fit a machine
word. -/
def limit? (text : String) : Option Nat :=
  let digits : List Char := match text.toList with
    | '+' :: digits => digits
    | digits => digits
  let value := digits.foldl (fun value digit => value * 10 + (digit.toNat - '0'.toNat)) 0
  if digits ≠ [] ∧ digits.all Char.isDigit ∧ value < UInt64.size then some value else none

/-- What the arguments on one side of the command's word give. -/
structure Given where
  elf? : Option String
  map? : Option String
  logLevel? : Option LogLevel
  logFormat? : Option LogFormat
  all : Bool
  sectionName? : Option String
  object? : Option String
  limit? : Option Nat
  name? : Option String
deriving DecidableEq, Repr

namespace Given

/-- Nothing given. -/
def nothing : Given := ⟨none, none, none, none, false, none, none, none, none⟩

/-- Whether an option has been given. -/
def has (given : Given) : Valued → Bool
  | .elf => given.elf?.isSome
  | .map => given.map?.isSome
  | .logLevel => given.logLevel?.isSome
  | .logFormat => given.logFormat?.isSome
  | .section => given.sectionName?.isSome
  | .object => given.object?.isSome
  | .limit => given.limit?.isSome

/-- The arguments with an option, if its value is understood; a path may not be empty. -/
def withValue? (given : Given) (value : String) : Valued → Option Given
  | .elf => if value.isEmpty then none else some { given with elf? := some value }
  | .map => if value.isEmpty then none else some { given with map? := some value }
  | .logLevel =>
    (LogLevel.parse value).toOption.map fun level => { given with logLevel? := some level }
  | .logFormat =>
    (LogFormat.parse value).toOption.map fun format => { given with logFormat? := some format }
  | .section => some { given with sectionName? := some value }
  | .object => some { given with object? := some value }
  | .limit => (CommandLine.limit? value).map fun limit => { given with limit? := some limit }

/-- The arguments with an option, which may be given once on each side of the command's word. -/
def withOption (given : Given) (shown : String) (option : Valued) (value : String) :
    Except Refusal Given :=
  if given.has option then .error (.repeated shown)
  else
    match given.withValue? value option with
    | some given => .ok given
    | none => .error (.invalidValue option value)

/-- The arguments with one more that belongs to no option, which only one command takes. -/
def withPlain (given : Given) (word? : Option CommandWord) (text : String) : Except Refusal Given :=
  match word?, given.name? with
  | some .lookup, none => .ok { given with name? := some text }
  | _, _ => .error (.unknownArgument text)

end Given

/-- The form of an argument. -/
inductive Form where
  /-- Two hyphens alone, behind which no argument is an option. -/
  | endOfOptions
  | long (name : String) (value? : Option String)
  | short (name : Char) (attached : List Char)
  | plain

/-- Whether an argument starts like an option; a hyphen alone does not. -/
def isOptionLike (text : String) : Bool :=
  match text.toList with
  | '-' :: _ :: _ => true
  | _ => false

/-- A long option may have its value behind an equals sign, and a short one right behind it. -/
def Form.ofText (text : String) : Form :=
  match text.toList with
  | ['-', '-'] => .endOfOptions
  | '-' :: '-' :: rest =>
    let name := String.ofList (rest.takeWhile (· != '='))
    match rest.dropWhile (· != '=') with
    | [] => .long name none
    | _ :: value => .long name (some (String.ofList value))
  | '-' :: name :: attached => .short name attached
  | _ => .plain

/-- The value right behind a short option, of which an equals sign in front is no part. -/
def attachedValue? : List Char → Option String
  | [] => none
  | '=' :: value => some (String.ofList value)
  | value => some (String.ofList value)

/-- What an argument that starts like an option asks for. -/
inductive Asked where
  | switch (switch : Switch) (value? : Option String)
  | endOfOptions
  | plain

/-- The option that an argument names, if it names one. -/
def asked (word? : Option CommandWord) (text : String) : Except Refusal Asked :=
  match Form.ofText text with
  | .endOfOptions => .ok .endOfOptions
  | .plain => .ok .plain
  | .long name value? =>
    match longOption? word? name, value? with
    | none, _ => .error (.unknownArgument text)
    | some (.valued option), _ => .ok (.switch (.valued option) value?)
    | some _, some _ => .error (.unneededValue text)
    | some flag, none => .ok (.switch flag none)
  | .short name attached =>
    match shortOption? word? name with
    | some option => .ok (.switch option (attachedValue? attached))
    | none => .error (.unknownArgument text)

/-- How reading the arguments of one side ends. -/
inductive Ending where
  /-- All are read. -/
  | done (given : Given)
  | help
  | version
  /-- The word of a command, and the arguments behind it. -/
  | command (given : Given) (word : CommandWord) (rest : List String)
  /-- The word that asks for help, and the arguments behind it. -/
  | helpWord (rest : List String)

/-- Reads arguments up to the word of a command, or behind it to the end. -/
def readArguments (word? : Option CommandWord) (given : Given) (plainOnly : Bool) :
    List String → Except Refusal Ending
  | [] => .ok (.done given)
  | text :: rest =>
    if plainOnly then do
      let given ← given.withPlain word? text
      readArguments word? given true rest
    else do
      match ← asked word? text with
      | .endOfOptions => readArguments word? given true rest
      | .switch .help _ => return .help
      | .switch .version _ => return .version
      | .switch .all _ =>
        if given.all then throw (.repeated text)
        readArguments word? { given with all := true } false rest
      | .switch (.valued option) (some value) =>
        let given ← given.withOption text option value
        readArguments word? given false rest
      | .switch (.valued option) none =>
        match rest with
        | [] => throw (.missingValue text)
        | value :: rest =>
          if isOptionLike value then throw (.missingValue text)
          let given ← given.withOption text option value
          readArguments word? given false rest
      | .plain =>
        match word?, CommandWord.ofText? text with
        | none, some word => return .command given word rest
        | _, _ =>
          if word? = none ∧ text = "help" then return .helpWord rest
          let given ← given.withPlain word? text
          readArguments word? given false rest

/-- The values of the environment. -/
abbrev Environment := String → Option String

/-- The variable that names the image. -/
def elfVariable : String := "SYMSCOPE_ELF"

/-- The variable that names the link map. -/
def mapVariable : String := "SYMSCOPE_MAP"

/-- A value behind the command's word counts before one in front of it, and both before the
environment, which is read for each side that has none. -/
def resolved (option : Valued) (outer inner environment : Option String) :
    Except Refusal (Option String) :=
  match outer, inner, environment with
  | some _, some value, _ => .ok (some value)
  | _, _, some "" => .error (.invalidValue option "")
  | _, some value, _ => .ok (some value)
  | some value, none, _ => .ok (some value)
  | none, none, value? => .ok value?

/-- What a command line asks for. -/
structure Invocation where
  elf? : Option String
  map? : Option String
  logLevel? : Option LogLevel
  logFormat? : Option LogFormat
  command : Command
deriving DecidableEq, Repr

/-- What is to be done. -/
inductive Request where
  | help
  | version
  | run (invocation : Invocation)
deriving DecidableEq, Repr

/-- The command that a word and the arguments behind it call. -/
def command (given : Given) : CommandWord → Except Refusal Command
  | .sections => .ok (.sections given.all)
  | .symbols => .ok (.symbols given.sectionName? given.object? given.limit?)
  | .objects => .ok .objects
  | .lookup =>
    match given.name? with
    | some name => .ok (.lookup name)
    | none => .error .missingName
  | .lines => .ok (.lines given.limit?)

/-- The invocation that both sides of the command's word and the environment give. -/
def invocation (environment : Environment) (outer inner : Given) (word : CommandWord) :
    Except Refusal Invocation := do
  let command ← command inner word
  let elf? ← resolved .elf outer.elf? inner.elf? (environment elfVariable)
  let map? ← resolved .map outer.map? inner.map? (environment mapVariable)
  return {
    elf?
    map?
    logLevel? := inner.logLevel? <|> outer.logLevel?
    logFormat? := inner.logFormat? <|> outer.logFormat?
    command }

/-- Help is given on everything or on one command. -/
def isHelpTopic : List String → Bool
  | [] => true
  | [word] => word = "help" || (CommandWord.ofText? word).isSome
  | _ => false

/-- The request of a command line, of which the arguments are read in their order. -/
def request (environment : Environment) (arguments : List String) : Except Refusal Request := do
  match ← readArguments none .nothing false arguments with
  | .help => return .help
  | .version => return .version
  | .done _ => throw .missingCommand
  | .helpWord rest =>
    if isHelpTopic rest then return .help else throw (.unknownArgument (" ".intercalate rest))
  | .command outer word rest =>
    match ← readArguments (some word) .nothing false rest with
    | .help => return .help
    | .version => return .version
    | .done inner => return .run (← invocation environment outer inner word)
    | .command .. | .helpWord _ => throw .missingCommand

end Footprint.CommandLine
