import ApiGateway.Command.Run

/-!
# The program

Reads the settings file and the environment, and leaves the rest to `Command.run`.
-/

namespace ApiGateway.Program

/-- The variables of the environment that the program looks at. -/
def lookedAt : List String :=
  [ "RUST_LOG", "KUBECONFIG" ] ++
    [ "listen_host", "port", "log_level", "log_format", "auth_enabled", "auth_token",
      "discovery_enabled", "discovery_namespace", "primary_selector", "analyzer_selector",
      "analyzer_required", "discovery_interval_secs", "discovery_timeout_secs", "cluster_domain",
      "primary_url", "analyzer_url", "upstream_timeout_secs", "upstream_connect_timeout_secs",
      "rate_limit_enabled", "rate_limit_rps", "rate_limit_burst", "rate_limit_client_rps",
      "rate_limit_client_burst", "rate_limit_max_clients", "rate_limit_client_idle_secs",
      "shutdown_timeout_secs" ].map fun key => "MERIDIAN_" ++ key.toUpper

/-- The variables that are set. -/
def environment : IO (List (String × String)) :=
  lookedAt.filterMapM fun name => do
    return (← IO.getEnv name).map fun value => (name, value)

/-- The file at a path, if it can be read. -/
def readFile (path : String) : IO (Option (String × List UInt8)) := do
  try
    let octets ← IO.FS.readBinFile path
    return some (path, octets.toList)
  catch _ => return none

/-- The files that the arguments and the environment speak of. -/
def files (arguments : List String) (environment : List (String × String)) :
    IO Settings.Directory := do
  let settings := match Command.Request.ofArguments? arguments with
    | some (.run _ (some path)) => (Settings.File.candidates path.toList).map String.ofList
    | _ => []
  let registry :=
    (Text.fields ':' ((environment.lookup "KUBECONFIG").getD "").toList).map String.ofList
  (settings ++ registry).filterMapM readFile

/-- Prints what a command ends with. -/
def report : Command.Outcome → IO Unit
  | .misuse => IO.eprintln "error: the arguments were not understood"
  | .done _ output errors => do
    output.forM IO.println
    errors.forM (IO.eprintln ·)
  | .failed _ events causes => do
    events.forM fun (level, message) => IO.println (level.name ++ " " ++ message)
    (Command.Outcome.causeLines causes).forM (IO.eprintln ·)
  | .serving s => IO.println ("Ready to listen on " ++ String.ofList s.listenAddress)

end ApiGateway.Program

open ApiGateway ApiGateway.Program in
/-- Runs the command that the arguments name. -/
def main (arguments : List String) : IO UInt32 := do
  let environment ← environment
  let files ← files arguments environment
  let outcome := Command.run { files, environment, readFilter := Log.Filter.reader .unicode } arguments
  report outcome
  return UInt32.ofNat (outcome.code?.getD 0)
