import Footprint.Proofs.CommandLine.Printing

/-! Which commands fail on what was loaded, and what is left of a session that fails: no part of a
report, and its error at the end of its messages. -/

namespace Footprint.CommandLine

section Faults

/-- The error that an answer is, if it is one. -/
def faultOf? {α : Type} : Except Error α → Option Error
  | .error cause => some cause
  | .ok _ => none

/-- A value made from an answer is missing where the answer is. -/
@[simp]
theorem faultOf?_map {α β : Type} (answer : Except Error α) (change : α → β) :
    faultOf? (answer >>= fun value => pure (change value)) = faultOf? answer := by
  cases answer <;> rfl

/-- The error of the question that a command asks before it prints, if it fails; the list of object
files is always there. -/
def questionFault? (analyzer : Analyzer) : Command → Option Error
  | .sections true => faultOf? analyzer.sections
  | .sections false => faultOf? analyzer.sectionsWithSymbols
  | .symbols section? object? _ => faultOf? (selected analyzer section? object?)
  | .objects => none
  | .lookup name => faultOf? (analyzer.symbolWithDebugInfo name none).answer
  | .lines _ => faultOf? analyzer.image

/-- The report of a command fails where its question does. -/
theorem faultOf?_report (analyzer : Analyzer) (command : Command) :
    faultOf? (report analyzer command) = questionFault? analyzer command := by
  cases command with
  | sections all => cases all <;> exact faultOf?_map _ _
  | objects =>
    rw [report_objects]
    rfl
  | symbols _ _ _ | lookup _ | lines _ => exact faultOf?_map _ _

/-- The error of a question about the image. -/
def imageFault? (analyzer : Analyzer) : Option Error :=
  if analyzer.elf?.isSome then none else some .elfNotLoaded

/-- The error of a question about the symbols of the image. -/
def tableFault? (analyzer : Analyzer) : Option Error :=
  match analyzer.elf? with
  | none => some .elfNotLoaded
  | some image => if image.symbols?.isSome then none else some .noSymbolTable

/-- The error of a question about all symbols. -/
def symbolsFault? (analyzer : Analyzer) : Option Error :=
  match analyzer.elf?, analyzer.map? with
  | some _, _ => tableFault? analyzer
  | none, some _ => none
  | none, none => some .nothingLoaded

/-- The error of a question about the symbols of an object file, which a link map answers alone. -/
def originFault? (analyzer : Analyzer) : Option Error :=
  if analyzer.map?.isSome then none else symbolsFault? analyzer

/-- The error of a command, told by what was loaded. -/
def loadedFault? (analyzer : Analyzer) : Command → Option Error
  | .sections true | .lines _ => imageFault? analyzer
  | .sections false | .symbols (some _) none _ => tableFault? analyzer
  | .symbols none (some _) _ => originFault? analyzer
  | .symbols _ _ _ | .lookup _ => symbolsFault? analyzer
  | .objects => none

variable (analyzer : Analyzer)

/-- Without an image, there is none to ask. -/
theorem faultOf?_image : faultOf? analyzer.image = imageFault? analyzer := by
  rw [Analyzer.image, imageFault?]
  cases analyzer.elf? <;> rfl

/-- An image without a symbol table tells of no symbols. -/
theorem faultOf?_symbols (image : Elf.Image) :
    faultOf? image.symbols = if image.symbols?.isSome then none else some .noSymbolTable := by
  rw [Elf.Image.symbols]
  cases image.symbols? <;> rfl

/-- All symbols are missing where neither input is there, or where the image has no symbol table. -/
theorem faultOf?_allSymbols : faultOf? analyzer.allSymbols = symbolsFault? analyzer := by
  rw [Analyzer.allSymbols, symbolsFault?, tableFault?]
  cases analyzer.elf? with
  | none => cases analyzer.map? <;> rfl
  | some image =>
    cases analyzer.map? with
    | none => exact faultOf?_symbols image
    | some map => exact (faultOf?_map _ _).trans (faultOf?_symbols image)

/-- A question about the symbols of the image fails as the image or its symbols do. -/
theorem faultOf?_table {α : Type} {use : Elf.Image → Except Error α}
    (each : ∀ image, faultOf? (use image) = faultOf? image.symbols) :
    faultOf? (analyzer.image >>= use) = tableFault? analyzer := by
  rw [Analyzer.image, tableFault?]
  cases analyzer.elf? with
  | none => rfl
  | some image => exact (each image).trans (faultOf?_symbols image)

/-- A link map answers for an object file; without one, all symbols are asked for. -/
theorem faultOf?_symbolsForObject (object : String) :
    faultOf? (analyzer.symbolsForObject object) = originFault? analyzer := by
  rw [Analyzer.symbolsForObject, originFault?]
  cases analyzer.map? with
  | some map => rfl
  | none => exact (faultOf?_map _ _).trans (faultOf?_allSymbols analyzer)

/-- Looking up a symbol only fails where all symbols are missing: neither an unknown name nor a
missing source location is an error. -/
theorem faultOf?_symbolWithDebugInfo (name : String) (cache : Elf.LineCache) :
    faultOf? (analyzer.symbolWithDebugInfo name cache).answer = symbolsFault? analyzer := by
  rw [← faultOf?_allSymbols, Analyzer.symbolWithDebugInfo]
  cases analyzer.allSymbols with
  | error cause => rfl
  | ok symbols =>
    cases found : Analyzer.symbolNamed? symbols name with
    | none => simp only [found]; rfl
    | some symbol =>
      cases analyzer.elf? with
      | none => simp only [found]; rfl
      | some image =>
        simp only [found, Elf.Reply.map]
        cases (Analyzer.locate image symbol cache).answer <;> rfl

/-- A command fails exactly where what it asks for was not loaded. -/
theorem questionFault?_eq (command : Command) :
    questionFault? analyzer command = loadedFault? analyzer command := by
  cases command with
  | sections all =>
    cases all with
    | true => exact (faultOf?_map _ _).trans (faultOf?_image analyzer)
    | false => exact faultOf?_table analyzer fun image => faultOf?_map _ _
  | symbols section? object? limit? =>
    -- A section alone is one of the image, and an object file alone may be one of a link map.
    cases section? with
    | none =>
      cases object? with
      | none => exact (faultOf?_map _ _).trans (faultOf?_allSymbols analyzer)
      | some object => exact faultOf?_symbolsForObject analyzer object
    | some name =>
      cases object? with
      | none => exact faultOf?_table analyzer fun image => faultOf?_map _ _
      | some object => exact (faultOf?_map _ _).trans (faultOf?_allSymbols analyzer)
  | objects => rfl
  | lookup name => exact faultOf?_symbolWithDebugInfo analyzer name none
  | lines limit? => exact faultOf?_image analyzer

end Faults

section Session

/-- The log entries of a session: those of loading its inputs, and those of the questions to them. -/
structure Log where
  loading : String
  answering : String
deriving DecidableEq, Repr

/-- Loads the inputs and prints the report of the command. -/
def program (log : Log) (files : Files) (invocation : Invocation) : Printing Unit := do
  say log.loading
  let (analyzer, _) ← ask (Analyzer.load files invocation.sources)
  say log.answering
  present analyzer invocation.command

/-- The outcome of a program that has ended: the report is what was printed. -/
def ended : Except Error Unit × Pages → Outcome
  | (.ok (), pages) => ⟨0, pages.output, pages.messages⟩
  | (.error cause, pages) =>
    ⟨1, pages.output, pages.messages ++ "Error: " ++ cause.message ++ "\n"⟩

/-- The outcome of a command line that prints as it goes, unless a trap stops it. -/
def session (log : Log) (files : Files) (environment : Environment) (arguments : List String) :
    Except Trap Outcome :=
  match request environment arguments with
  | .error _ => .ok (.refused usageText)
  | .ok .help => .ok (.success usageText)
  | .ok .version => .ok (.success versionText)
  | .ok (.run invocation) =>
    match invocation.logFormat environment with
    | .error fault => .ok (.failure ("Failed to initialize logging: " ++ fault.message ++ "\n"))
    | .ok _ => (program log files invocation).run.run ⟨"", ""⟩ |>.map ended

/-- Whether an invocation fails with an error: loading an input does, or the question of the
command. -/
inductive Fails (files : Files) (invocation : Invocation) (cause : Error) : Prop
  | loading : Analyzer.load files invocation.sources = .error cause → Fails files invocation cause
  | asking {analyzer : Analyzer} {events : List Event} :
      Analyzer.load files invocation.sources = .ok (analyzer, events) →
        questionFault? analyzer invocation.command = some cause → Fails files invocation cause

variable {files : Files} {environment : Environment} {arguments : List String}
  {invocation : Invocation} {form : LogFormat}

/-- An error is the fault of its answer. -/
theorem faultOf?_eq_some_iff {α : Type} {answer : Except Error α} {cause : Error} :
    faultOf? answer = some cause ↔ answer = .error cause := by
  cases answer <;> simp [faultOf?]

/-- Inputs that cannot be loaded are all that is answered. -/
theorem answer_of_error {cause : Error}
    (failed : Analyzer.load files invocation.sources = .error cause) :
    answer files invocation = .error cause := by
  rw [answer, failed]
  rfl

/-- Inputs that are loaded are answered with the report on them. -/
theorem answer_of_load {analyzer : Analyzer} {events : List Event}
    (loaded : Analyzer.load files invocation.sources = .ok (analyzer, events)) :
    answer files invocation = report analyzer invocation.command := by
  rw [answer, loaded]
  rfl

/-- An invocation is answered with an error exactly where it fails. -/
theorem answer_eq_error_iff {cause : Error} :
    answer files invocation = .error cause ↔ Fails files invocation cause := by
  constructor
  · intro answered
    cases loaded : Analyzer.load files invocation.sources with
    | error other =>
      rw [answer_of_error loaded] at answered
      obtain rfl := Except.error.inj answered
      exact .loading loaded
    | ok inputs =>
      rw [answer_of_load loaded, ← faultOf?_eq_some_iff, faultOf?_report] at answered
      exact .asking loaded answered
  · rintro (failed | ⟨loaded, failed⟩)
    · exact answer_of_error failed
    · rwa [answer_of_load loaded, ← faultOf?_eq_some_iff, faultOf?_report]

/-- A program prints what its invocation is answered with, behind log entries. -/
theorem writes_program (log : Log)
    (fits : ∀ analyzer events, Analyzer.load files invocation.sources = .ok (analyzer, events) →
      ∀ sum ∈ sums analyzer invocation.command, sum < UInt64.size) :
    ∃ logged, match answer files invocation with
      | .ok (output, messages) =>
        Writes (program log files invocation) (.ok ()) output (logged ++ messages)
      | .error cause => Writes (program log files invocation) (.error cause) "" logged := by
  have opening := writes_say log.loading
  cases loaded : Analyzer.load files invocation.sources with
  | error cause =>
    have loading : Writes (ask (Analyzer.load files invocation.sources)) (.error cause) "" "" :=
      loaded ▸ writes_ask _
    have printed : Writes (program log files invocation) (.error cause) _ _ :=
      opening.bind loading.bind_error
    rw [answer_of_error loaded]
    exact ⟨_, printed⟩
  | ok inputs =>
    obtain ⟨analyzer, events⟩ := inputs
    have loading : Writes (ask (Analyzer.load files invocation.sources)) (.ok (analyzer, events))
        "" "" := loaded ▸ writes_ask _
    have presented := presents_report (fits analyzer events loaded)
    rw [answer_of_load loaded]
    refine ⟨log.loading ++ log.answering, ?_⟩
    cases reported : report analyzer invocation.command with
    | error cause =>
      rw [reported] at presented
      have printed : Writes (program log files invocation) (.error cause) _ _ :=
        opening.bind (loading.bind ((writes_say log.answering).bind presented))
      simpa using printed
    | ok texts =>
      rw [reported] at presented
      have printed : Writes (program log files invocation) (.ok ()) _ _ :=
        opening.bind (loading.bind ((writes_say log.answering).bind presented))
      simpa [String.append_assoc] using printed

/-- A session does what the command line does, with its log entries before its messages. -/
theorem session_eq_run (log : Log) (asked : request environment arguments = .ok (.run invocation))
    (logs : invocation.logFormat environment = .ok form)
    (fits : ∀ analyzer events, Analyzer.load files invocation.sources = .ok (analyzer, events) →
      ∀ sum ∈ sums analyzer invocation.command, sum < UInt64.size) :
    ∃ logged, session log files environment arguments =
      let outcome := run files environment arguments
      .ok ⟨outcome.status, outcome.output, logged ++ outcome.messages⟩ := by
  obtain ⟨logged, printed⟩ := writes_program log fits
  refine ⟨logged, ?_⟩
  simp only [session, run, asked, Invocation.run, logs]
  cases answered : answer files invocation with
  | error cause =>
    rw [answered] at printed
    rw [printed ⟨"", ""⟩]
    simp [Except.map, ended, Outcome.failure, String.append_assoc]
  | ok texts =>
    rw [answered] at printed
    rw [printed ⟨"", ""⟩]
    simp [Except.map, ended]

/-- A command line whose invocation fails says so, and reports nothing. -/
theorem run_of_fails {cause : Error} (asked : request environment arguments = .ok (.run invocation))
    (logs : invocation.logFormat environment = .ok form) (fails : Fails files invocation cause) :
    run files environment arguments = .failure ("Error: " ++ cause.message ++ "\n") := by
  simp only [run, asked, Invocation.run, logs, answer_eq_error_iff.mpr fails]

/-- A command line whose invocation does not fail reports on what was loaded. -/
theorem run_of_not_fails (asked : request environment arguments = .ok (.run invocation))
    (logs : invocation.logFormat environment = .ok form)
    (fine : ¬ ∃ cause, Fails files invocation cause) :
    ∃ analyzer events output messages,
      Analyzer.load files invocation.sources = .ok (analyzer, events) ∧
        report analyzer invocation.command = .ok (output, messages) ∧
        run files environment arguments = ⟨0, output, messages⟩ := by
  cases answered : answer files invocation with
  | error cause => exact absurd ⟨cause, answer_eq_error_iff.mp answered⟩ fine
  | ok texts =>
    obtain ⟨⟨analyzer, events⟩, loaded, reported⟩ := ok_of_bind answered
    refine ⟨analyzer, events, texts.1, texts.2, loaded, reported, ?_⟩
    rw [run, asked]
    exact Invocation.run_of_report logs loaded reported

/-- A command that fails prints no part of its report. No trap stops a command whose sums of sizes fit
eight bytes, whatever its limit is. It ends with status one exactly where loading an input or its
question fails; nothing is reported then, and the error is the last message. It ends with status zero
otherwise, with the whole report on what was loaded, as the command line that prints at once does.
Whether the question fails is told by what was loaded, and the questions that are asked for each object
file, in the middle of a report, never do. -/
theorem session_complete_or_silent (log : Log)
    (asked : request environment arguments = .ok (.run invocation))
    (logs : invocation.logFormat environment = .ok form)
    (fits : ∀ analyzer events, Analyzer.load files invocation.sources = .ok (analyzer, events) →
      ∀ sum ∈ sums analyzer invocation.command, sum < UInt64.size) :
    ∃ outcome, session log files environment arguments = .ok outcome ∧
      (outcome.status = 1 ↔ ∃ cause, Fails files invocation cause) ∧
      (∀ cause, Fails files invocation cause →
        outcome.output = "" ∧
          ∃ logged, outcome.messages = logged ++ ("Error: " ++ cause.message ++ "\n")) ∧
      ((¬ ∃ cause, Fails files invocation cause) →
        outcome.status = 0 ∧ ∃ analyzer events messages logged,
          Analyzer.load files invocation.sources = .ok (analyzer, events) ∧
            report analyzer invocation.command = .ok (outcome.output, messages) ∧
            outcome.messages = logged ++ messages) ∧
      outcome.status = (run files environment arguments).status ∧
      outcome.output = (run files environment arguments).output ∧
      ∀ analyzer events, Analyzer.load files invocation.sources = .ok (analyzer, events) →
        questionFault? analyzer invocation.command = loadedFault? analyzer invocation.command ∧
          ∀ object ∈ analyzer.objects, ∃ symbols,
            analyzer.symbolsForObject object = .ok symbols := by
  obtain ⟨logged, ran⟩ := session_eq_run log asked logs fits
  refine ⟨_, ran, ⟨?_, ?_⟩, ?_, ?_, rfl, rfl, fun analyzer events loaded =>
    ⟨questionFault?_eq analyzer _, fun object member => ⟨_, symbolsForObject_of_mem member⟩⟩⟩
  · intro one
    by_contra fine
    obtain ⟨analyzer, events, output, messages, _, _, whole⟩ := run_of_not_fails asked logs fine
    simp [whole] at one
  · rintro ⟨cause, fails⟩
    simp [run_of_fails asked logs fails, Outcome.failure]
  · intro cause fails
    simp only [run_of_fails asked logs fails, Outcome.failure]
    exact ⟨trivial, logged, rfl⟩
  · intro fine
    obtain ⟨analyzer, events, output, messages, loaded, reported, whole⟩ :=
      run_of_not_fails asked logs fine
    simp only [whole]
    exact ⟨trivial, analyzer, events, messages, logged, loaded, reported, rfl⟩

/-- The link map of the image knows one object file, with one symbol. -/
theorem objects_firmware :
    firmwareInputs.analyzer.objects = ["main.o"] ∧
      firmwareInputs.analyzer.symbolsForObject "main.o" = .ok [linkedSymbol] := by
  constructor
  · change firmwareInputs.map.objects = _
    rw [map_firmwareInputs]
    decide
  · change Except.ok (firmwareInputs.map.symbolsForObject "main.o") = _
    rw [map_firmwareInputs]
    rfl

/-- The sum of the only row is the size of that symbol. -/
theorem sums_firmware : sums firmwareInputs.analyzer .objects = [4] := by
  obtain ⟨known, listing⟩ := objects_firmware
  rw [sums, known]
  simp only [List.map_cons, List.map_nil, listing]
  rfl

/-- The row is the whole report. -/
theorem report_firmware :
    report firmwareInputs.analyzer .objects = .ok ("         4       1  main.o\n", "") := by
  obtain ⟨known, listing⟩ := objects_firmware
  rw [report_objects, known]
  simp only [List.map_cons, List.map_nil, listing]
  decide +kernel

/-- Both files load for the command that lists object files, in one way only. -/
theorem eq_of_load_firmware {analyzer : Analyzer} {events : List Event}
    (loaded : Analyzer.load firmwareFiles (onFirmware .objects).sources = .ok (analyzer, events)) :
    analyzer = firmwareInputs.analyzer := by
  obtain ⟨_, loads⟩ := firmwareInputs.load
  exact (Prod.mk.inj (Except.ok.inj (loaded.symm.trans loads))).1

/-- With an image and a link map that are loaded, the row of an object file is the whole report; with
neither, a command that asks for symbols fails even if no row is wanted. -/
theorem session_complete_or_silent_firmware :
    let log : Log := ⟨"loading\n", "answering\n"⟩
    (∃ outcome,
      session log firmwareFiles emptyEnvironment
          ["--elf", "app.elf", "--map", "app.map", "objects"] = .ok outcome ∧
        outcome.status = 0 ∧ outcome.output = "         4       1  main.o\n") ∧
      ∃ outcome logged,
        session log firmwareFiles emptyEnvironment ["symbols", "-n", "0"] = .ok outcome ∧
          outcome.status = 1 ∧ outcome.output = "" ∧
          outcome.messages = logged ++ "Error: No ELF or MAP file loaded\n" := by
  intro log
  constructor
  · have asked : request emptyEnvironment ["--elf", "app.elf", "--map", "app.map", "objects"] =
        .ok (.run (onFirmware .objects)) := by decide +kernel
    have fits : ∀ analyzer events,
        Analyzer.load firmwareFiles (onFirmware .objects).sources = .ok (analyzer, events) →
          ∀ sum ∈ sums analyzer (onFirmware .objects).command, sum < UInt64.size := by
      intro analyzer events loaded sum member
      have total : sum ∈ sums firmwareInputs.analyzer .objects := eq_of_load_firmware loaded ▸ member
      rw [sums_firmware, List.mem_singleton] at total
      rw [total]
      decide
    obtain ⟨outcome, ran, _, _, whole, _⟩ := session_complete_or_silent log asked rfl fits
    have fine : ¬ ∃ cause, Fails firmwareFiles (onFirmware .objects) cause := by
      rintro ⟨cause, failed | ⟨_, failed⟩⟩
      · obtain ⟨_, loads⟩ := firmwareInputs.load
        simp [loads] at failed
      · simp [onFirmware, questionFault?] at failed
    obtain ⟨zero, analyzer, _, messages, _, loaded, reported, _⟩ := whole fine
    obtain rfl := eq_of_load_firmware loaded
    have row := report_firmware.symm.trans reported
    exact ⟨outcome, ran, zero, (Prod.mk.inj (Except.ok.inj row)).1.symm⟩
  · let invocation : Invocation := ⟨none, none, none, none, .symbols none none (some 0)⟩
    have asked : request emptyEnvironment ["symbols", "-n", "0"] = .ok (.run invocation) := by
      decide +kernel
    have fits : ∀ analyzer events,
        Analyzer.load firmwareFiles invocation.sources = .ok (analyzer, events) →
          ∀ sum ∈ sums analyzer invocation.command, sum < UInt64.size := by
      rintro analyzer events ⟨rfl⟩ sum member
      rw [List.mem_singleton.mp member]
      decide
    obtain ⟨outcome, ran, one, failing, _⟩ := session_complete_or_silent log asked rfl fits
    have fails : Fails firmwareFiles invocation .nothingLoaded := .asking rfl rfl
    obtain ⟨silent, logged, told⟩ := failing _ fails
    exact ⟨outcome, logged, ran, one.mpr ⟨_, fails⟩, silent, told⟩

end Session

end Footprint.CommandLine
