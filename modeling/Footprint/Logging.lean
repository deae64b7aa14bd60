/-! How much is logged, and in which form. -/

namespace Footprint

/-- The form of log entries. -/
inductive LogFormat where
  | pretty
  | json
deriving DecidableEq, Repr

/-- How much is logged. -/
inductive LogLevel where
  | error
  | warn
  | info
  | debug
  | trace
deriving DecidableEq, Repr

/-- Why a log setting is not understood. -/
inductive LoggingFault where
  | invalidFormat (text : String)
  | invalidLevel (text : String)
deriving DecidableEq, Repr

/-- What is said of a log setting that is not understood; it is shown as it was given. -/
def LoggingFault.message : LoggingFault → String
  | .invalidFormat text => "Invalid log format: " ++ text ++ ". Use 'pretty' or 'json'"
  | .invalidLevel text =>
    "Invalid log level: " ++ text ++ ". Use 'error', 'warn', 'info', 'debug', or 'trace'"

namespace LogFormat

/-- The word for a form. -/
def label : LogFormat → String
  | .pretty => "pretty"
  | .json => "json"

/-- The words for a form, in letters of either case; no letter past ASCII has one of theirs as
its lower case. -/
def parse (text : String) : Except LoggingFault LogFormat :=
  let word := text.map Char.toLower
  if word ∈ ["pretty", "dev", "development"] then .ok .pretty
  else if word ∈ ["json", "prod", "production"] then .ok .json
  else .error (.invalidFormat text)

end LogFormat

namespace LogLevel

/-- The word for a level. -/
def label : LogLevel → String
  | .error => "ERROR"
  | .warn => "WARN"
  | .info => "INFO"
  | .debug => "DEBUG"
  | .trace => "TRACE"

/-- The words for a level, in letters of either case; no letter past ASCII has one of theirs as
its lower case. -/
def parse (text : String) : Except LoggingFault LogLevel :=
  let word := text.map Char.toLower
  if word ∈ ["error", "err"] then .ok .error
  else if word ∈ ["warn", "warning"] then .ok .warn
  else if word = "info" then .ok .info
  else if word ∈ ["debug", "dbg"] then .ok .debug
  else if word = "trace" then .ok .trace
  else .error (.invalidLevel text)

end LogLevel

end Footprint
