import Footprint.CommandLine.Run

/-! The program: it reads the environment and the named files, and writes the outcome of its
command line. -/

namespace Footprint.CommandLine

/-- The variables that the program reads. -/
def variableNames : List String := [elfVariable, mapVariable, formatVariable]

/-- The environment as far as the program reads it. -/
def readEnvironment : IO Environment := do
  let values ← variableNames.mapM fun name => return (name, ← IO.getEnv name)
  return fun name => (values.find? (·.1 = name)).bind (·.2)

/-- What the system says of a failed read. -/
def faultOf : IO.Error → FileFault
  | .noFileOrDirectory .. => .missing
  | .inappropriateType .. => .directory
  | cause => .other (toString cause)

/-- The bytes of a file. -/
def readFile (path : String) : IO (Except FileFault Bytes) := do
  try
    return .ok (← IO.FS.readBinFile path).data
  catch cause =>
    return .error (faultOf cause)

/-- The paths that an invocation names. -/
def Invocation.paths (invocation : Invocation) : List String :=
  invocation.elf?.toList ++ invocation.map?.toList

/-- The files that a command line needs. -/
def readFiles (environment : Environment) (arguments : List String) : IO Files := do
  let paths := match request environment arguments with
    | .ok (.run invocation) => invocation.paths
    | _ => []
  let contents ← paths.mapM fun path => return (path, ← readFile path)
  return fun path => ((contents.find? (·.1 = path)).map (·.2)).getD (.error .missing)

end Footprint.CommandLine

/-- Runs the command line and ends with its status. -/
def main (arguments : List String) : IO UInt32 := do
  let environment ← Footprint.CommandLine.readEnvironment
  let files ← Footprint.CommandLine.readFiles environment arguments
  let outcome := Footprint.CommandLine.run files environment arguments
  IO.print outcome.output
  IO.eprint outcome.messages
  return outcome.status.toUInt32
