import Footprint.CommandLine.Run
import Footprint.Proofs.Analyzer.Attribution
import Footprint.Proofs.Analyzer.SourceLocations
import Footprint.Proofs.Text.Utf8

/-! Which symbols the command line lists for an object file, in a section or wherever they lie: the
link map alone names those of the object file, and the image tells which of them lie in the
section. -/

namespace Footprint

namespace Symbol

end Symbol

namespace LinkMap

open Footprint.Symbol

end LinkMap

namespace CommandLine

open Footprint.Symbol

/-- An invocation that logs and whose inputs load succeeds with the report on its command. -/
theorem Invocation.run_of_report {files : Files} {environment : Environment}
    {invocation : Invocation} {form : LogFormat} {analyzer : Analyzer} {events : List Event}
    {output messages : String} (logs : invocation.logFormat environment = .ok form)
    (loaded : Analyzer.load files invocation.sources = .ok (analyzer, events))
    (reported : report analyzer invocation.command = .ok (output, messages)) :
    invocation.run files environment = ⟨0, output, messages⟩ := by
  have answered : answer files invocation = .ok (output, messages) := by
    rw [answer, loaded]
    exact reported
  rw [Invocation.run, logs]
  dsimp only
  rw [answered]

/-- What an invocation starts from that logs and has both of its files: an image with a symbol table
and a link map. -/
structure Inputs (files : Files) (environment : Environment) (invocation : Invocation) where
  form : LogFormat
  logs : invocation.logFormat environment = .ok form
  elf : String
  elf? : invocation.elf? = some elf
  data : Bytes
  read : files elf = .ok data
  image : Elf.Image
  parsed : Elf.Image.parse data = .ok image
  /-- The symbols of the image, larger ones first. -/
  own : List Symbol
  table : image.symbols = .ok own
  link : String
  link? : invocation.map? = some link
  bytes : Bytes
  linked : files link = .ok bytes

namespace Inputs

variable {files : Files} {environment : Environment} {invocation : Invocation}
  (inputs : Inputs files environment invocation)

/-- The link map in its file. -/
def map : LinkMap := (LinkMap.parse (Text.Utf8.decode inputs.bytes)).1

/-- The image and the link map together. -/
def analyzer : Analyzer := ⟨some inputs.image, some inputs.map⟩

/-- Both files load. -/
theorem load : ∃ events,
    Analyzer.load files invocation.sources = .ok (inputs.analyzer, events) := by
  simp only [Analyzer.load, Invocation.sources, inputs.elf?, inputs.link?, Option.map_some,
    Analyzer.loadOptional, Elf.Image.load, LinkMap.load, inputs.read, inputs.parsed, inputs.linked,
    Except.mapError, Bind.bind, Except.bind, Pure.pure, Except.pure]
  exact ⟨_, rfl⟩

end Inputs

/-- A link map that knows where a function comes from, and another size for it than the image. -/
def firmwareMap : String := "Symbol File\n.text.f 0x1002 0x4 main.o\n f 0x1002 0x4\n"

/-- The files of an image and of its link map. -/
def firmwareFiles : Files
  | "app.elf" => .ok Analyzer.firmware.data
  | "app.map" => .ok (Text.Utf8.encode firmwareMap).toArray
  | _ => .error .missing

/-- Nothing is set in the environment. -/
def emptyEnvironment : Environment := fun _ => none

/-- A command on the image and the link map. -/
def onFirmware (command : Command) : Invocation :=
  ⟨some "app.elf", some "app.map", none, none, command⟩

/-- The image and the link map load. -/
def firmwareInputs : Inputs firmwareFiles emptyEnvironment (onFirmware .objects) where
  form := .pretty
  logs := rfl
  elf := "app.elf"
  elf? := rfl
  data := Analyzer.firmware.data
  read := rfl
  image := Analyzer.firmware.image
  parsed := Analyzer.firmware.parse_data
  own := [Analyzer.codeSymbol]
  table := Analyzer.symbols_firmware
  link := "app.map"
  link? := rfl
  bytes := (Text.Utf8.encode firmwareMap).toArray
  linked := rfl

/-- The function as the link map lists it. -/
def linkedSymbol : Symbol := ⟨"f", .unknown, 0x1002, 4, none, some "main.o", none, none⟩

/-- The link map lists the function. -/
theorem map_firmwareInputs : firmwareInputs.map = ⟨[linkedSymbol]⟩ := by
  have collected : (LinkMap.collect (Text.lines firmwareMap.toList)).symbols = #[linkedSymbol] := by
    decide +kernel
  have placed : placeAll larger [] [linkedSymbol] = [linkedSymbol] := by decide
  change (LinkMap.parse (Text.Utf8.decode (Text.Utf8.encode firmwareMap).toArray)).1 = _
  rw [Text.Utf8.decode_encode, LinkMap.parse, collected, placed, largestFirst,
    List.mergeSort_singleton]

end CommandLine

end Footprint
