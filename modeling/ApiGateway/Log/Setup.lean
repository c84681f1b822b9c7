import ApiGateway.Log.Filter
import ApiGateway.Log.Format

/-!
# Setting up the log

The filter of the environment goes before that of the settings, unless it cannot be read. A log is set
up once; what was set up stays.
-/

namespace ApiGateway

/-- A log that is set up: what is logged, and how it is written. -/
structure Log where
  filter : Log.Filter
  format : Log.Format
  deriving DecidableEq, Repr

namespace Log

/-- The variable of the environment that holds a filter. -/
def filterVariable : String := "RUST_LOG"

/-- Why a log is not set up: the filter of the settings cannot be read, or there is a log already. -/
inductive SetupError where
  | invalidLevel (level : String)
  | installed
  deriving DecidableEq, Repr

namespace SetupError

/-- The message for the error. -/
def message : SetupError → String
  | .invalidLevel level => "Invalid log level: " ++ level
  | .installed => "Failed to install tracing subscriber"

end SetupError

/-- The filter to use: that of the environment if there is one that can be read, or else that of the
settings. -/
def chosenFilter (read : FilterReader) (environment : Option String) (level : String) :
    Except SetupError Filter :=
  match environment.bind fun text => (read text).toOption with
  | some filter => .ok filter
  | none =>
    match read level with
    | .ok filter => .ok filter
    | .error _ => .error (.invalidLevel level)

/-- Sets up a log after what was set up before. -/
def install (read : FilterReader) (before : Option Log) (environment : Option String) (level : String)
    (format : Format) : Except SetupError Log := do
  let filter ← chosenFilter read environment level
  match before with
  | some _ => throw .installed
  | none => return { filter, format }

/-- The event that tells of the log that was set up. -/
def readyEvent : Event where
  level := .info
  target := "meridian::tracing_setup".toList
  fields := ["message".toList, "level".toList, "format".toList]

/-- What that event says. -/
def readyMessage : String := "Meridian logging initialized"

/-- Holds if the log has the event. -/
def shows (log : Log) (e : Event) : Bool :=
  log.filter.enables e

end Log

end ApiGateway
