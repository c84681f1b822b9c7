import ApiGateway.Text.Blank

/-!
# Log formats

Log lines are written as JSON objects or for people to read.
-/

namespace ApiGateway.Log

/-- How log lines are written: one JSON object a line, or for people to read. -/
inductive Format where
  | json
  | pretty
  deriving DecidableEq, Repr, Inhabited

namespace Format

/-- The name of the format. -/
def name : Format → String
  | .json => "json"
  | .pretty => "pretty"

/-- The message for a text that names no format. -/
def unknownMessage (lowered : String) : String :=
  "unknown log format '" ++ lowered ++ "' (expected json or pretty)"

/-- The format that a text names in any case, or the message that it names none. -/
def ofText? (text : String) : Except String Format :=
  match Text.lowered text with
  | "json" => .ok .json
  | "pretty" => .ok .pretty
  | other => .error (unknownMessage other)

end Format

end ApiGateway.Log
