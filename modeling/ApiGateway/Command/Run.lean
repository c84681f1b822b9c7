import ApiGateway.Command.Arguments
import ApiGateway.Log.Setup
import ApiGateway.Registry.Resolver
import ApiGateway.Settings.Load
import ApiGateway.Settings.Validation

/-!
# What the commands do

`validate` loads the settings, checks them and sums them up. `serve` loads and checks them, sets up the
log and finds its backends; from there on it serves until it is told to stop.
-/

namespace ApiGateway.Command

/-- What a command ends with: the arguments were not understood; it is done, with lines for its output and its
errors; it has failed, with events in a log if there is one, and with causes, the outermost first; or it goes on
serving. -/
inductive Outcome where
  | misuse
  | done (code : Nat) (output errors : List String)
  | failed (format : Log.Format) (events : List (Log.Level × String)) (causes : List String)
  | serving (settings : Settings)

namespace Outcome

/-- The code with which the command ends, if it does. -/
def code? : Outcome → Option Nat
  | .misuse => some 2
  | .done code _ _ => some code
  | .failed .. => some 1
  | .serving _ => none

/-- The causes with their numbers. -/
def causeLines (causes : List String) : List String :=
  causes.zipIdx.map fun (cause, i) => String.ofList (Number.digits i) ++ ": " ++ cause

end Outcome

/-- What a command finds around it: the files, the environment and what reads log filters. -/
structure Surroundings where
  files : Settings.Directory
  environment : List (String × String)
  readFilter : Log.FilterReader

namespace Surroundings

/-- The value of a variable. -/
def valueOf? (around : Surroundings) (name : String) : Option String :=
  around.environment.lookup name

/-- Holds if there are files that tell where the registry is, and all of them are there. -/
def hasRegistry (around : Surroundings) : Bool :=
  let paths := (Text.fields ':' ((around.valueOf? "KUBECONFIG").getD "").toList).filter (!·.isEmpty)
  !paths.isEmpty && paths.all fun path => (around.files.get? (String.ofList path)).isSome

end Surroundings

/-! ## Checking settings -/

/-- The first line of a check. -/
def checkLine : Option String → String
  | some path => "🔍 Validating configuration: " ++ path ++ " (with MERIDIAN_* overrides)"
  | none => "🔍 Validating configuration from defaults and MERIDIAN_* variables"

/-- The lines that say where backends come from. -/
def backendLines (s : Settings) : List String :=
  if s.discoveryEnabled then
    [ "   • Discovery: kubernetes (namespace '" ++ s.discoveryNamespace ++ "', every " ++
        String.ofList (Number.digits s.discoveryIntervalSecs) ++ "s)" ]
  else
    [ "   • Discovery: static",
      "   • Metrics API: " ++ s.primaryUrl,
      "   • Release Analyzer: " ++ s.analyzerUrl.getD "not configured" ]

/-- The line on limits. -/
def limitLine (s : Settings) : String :=
  if s.rateLimitEnabled then
    "   • Rate Limit: " ++ s.rateLimitRps.text ++ " rps, burst " ++
      String.ofList (Number.digits s.rateLimitBurst)
  else "   • Rate Limit: disabled"

/-- The lines that sum up settings. -/
def summary (s : Settings) : List String :=
  [ "📋 Configuration Summary:",
    "   • Listen Address: " ++ String.ofList s.listenAddress ] ++
    backendLines s ++
    [ "   • Auth Enabled: " ++ (if s.authEnabled then "true" else "false"), limitLine s ]

/-- Checks the settings of a file. -/
def validate (around : Surroundings) (file : Option String) : Outcome :=
  let first := checkLine file
  match Settings.load around.files file around.environment with
  | .error e => .done 1 [first] ["❌ Configuration parsing failed:", "   " ++ e.message]
  | .ok s =>
    let read := [first, "✅ Configuration parsing: OK"]
    match s.validate around.readFilter with
    | .error e => .done 1 read ["❌ Configuration validation failed:", e.message]
    | .ok _ => .done 0 (read ++ ["✅ Configuration validation: OK", ""] ++ summary s) []

/-! ## Serving -/

/-- The event that serving begins. -/
def startEvent : Log.Event where
  level := .info
  target := "meridian".toList
  fields :=
    ["message".toList, "listen_addr".toList, "discovery".toList, "auth".toList, "rate_limit".toList]

/-- The event that no file tells where the registry is. -/
def noFileEvent : Log.Event where
  level := .trace
  target := "kube_client::config".toList
  fields := ["message".toList, "error".toList]

/-- The events from setting up the log to the search for the registry, with what they say. -/
def startEvents : List (Log.Event × String) :=
  [ (Log.readyEvent, Log.readyMessage),
    (startEvent, "Starting Meridian gateway"),
    (noFileEvent, "no local config found, falling back to local in-cluster config") ]

/-- Serves with the settings of a file. -/
def serve (around : Surroundings) (file : Option String) : Outcome :=
  match Settings.load around.files file around.environment with
  | .error e => .failed .json [] ("Failed to load configuration" :: e.causes)
  | .ok s =>
    match s.validate around.readFilter with
    | .error e => .failed .json [] ["Invalid configuration: " ++ e.message]
    | .ok _ =>
      let environment := around.valueOf? Log.filterVariable
      match Log.install around.readFilter none environment s.logLevel s.logFormat with
      | .error e => .failed .json [] [e.message]
      | .ok log =>
        if s.discoveryEnabled && !around.hasRegistry then
          let shown := startEvents.filter fun (event, _) => log.shows event
          .failed log.format (shown.map fun (event, message) => (event.level, message))
            ["Failed to build topology resolver", Registry.clientMessage]
        else .serving s

/-! ## Help -/

/-- What the program and its commands do. -/
def purpose : Option Verb → String
  | none => "Discovery-aware API gateway fronting the metrics API and release-analyzer services"
  | some .validate => "Validate the effective configuration and exit"
  | some .serve => "Start the gateway server (default)"

/-- The lines on options. -/
def optionLines (verb : Option Verb) : List String :=
  [ "Options:",
    "  -c, --config <CONFIG>  Configuration file (YAML, TOML or JSON); \u0060MERIDIAN_*\u0060" ++
      " variables override it",
    "  -h, --help             Print help" ] ++
    if verb.isNone then ["  -V, --version          Print version"] else []

/-- The lines on commands. -/
def commandLines : List String :=
  [ "Commands:",
    "  validate  " ++ purpose (some .validate),
    "  serve     " ++ purpose (some .serve),
    "  help      Print this message or the help of the given subcommand(s)",
    "" ]

/-- How the program or a command is used. -/
def help (verb : Option Verb) : List String :=
  match verb with
  | none => [purpose none, "", "Usage: meridian [OPTIONS] [COMMAND]", ""] ++ commandLines ++ optionLines none
  | some v =>
    [purpose (some v), "", "Usage: meridian " ++ v.name ++ " [OPTIONS]", ""] ++ optionLines (some v)

/-- What the arguments lead to. -/
def run (around : Surroundings) (arguments : List String) : Outcome :=
  match Request.ofArguments? arguments with
  | none => .misuse
  | some .version => .done 0 ["meridian 0.1.0"] []
  | some (.help verb) => .done 0 (help verb) []
  | some (.run .validate file) => validate around file
  | some (.run .serve file) => serve around file

end ApiGateway.Command
