import ApiGateway.Log.Filter
import ApiGateway.Settings.Basic
import ApiGateway.Url.Parser

/-!
# Valid settings

`Settings.problems` lists everything that is wrong with settings, in a fixed order. Each problem stands
on its own: what one switch turns off is not looked at, and no problem hides another, except that a
look-up that may take no time at all is not also said to take too long. Whether the log filter can be read
is up to who reads it (`Log.FilterReader`).
-/

namespace ApiGateway

namespace Settings

/-- Why a text is no base URL of a backend: it is no URL, its scheme is not one of the two that the gateway
speaks, or it has no host. -/
inductive BaseUrlError where
  | unreadable (error : UrlError)
  | scheme
  | noHost
  deriving DecidableEq, Repr

/-- The schemes that the gateway speaks. -/
def isHttp (scheme : List Char) : Bool :=
  scheme = "http".toList || scheme = "https".toList

/-- The base URL of a backend; blanks around it are dropped. -/
def baseUrl? (value : String) : Except BaseUrlError Url :=
  match Url.ofChars? (Text.trim value.toList) with
  | .error e => .error (.unreadable e)
  | .ok url =>
    if !isHttp url.scheme then .error .scheme
    else if url.host?.all fun h => h.chars.isEmpty then .error .noHost
    else .ok url

/-- Something that is wrong with settings. -/
inductive Problem where
  | listenAddress (address : List Char)
  | logFilter (fault : String)
  | missing (field switch : String)
  | baseUrl (field value : String) (error : BaseUrlError)
  | zero (field : String)
  | lookupTooLong (timeout interval : Nat)
  | rate (field : String) (perSecond : Number.Binary64)
  deriving DecidableEq, Repr

namespace BaseUrlError

/-- What is wrong with the value. -/
def message (value : String) : BaseUrlError → String
  | .unreadable e => "'" ++ value ++ "': " ++ e.message
  | .scheme => "'" ++ value ++ "' must use http or https"
  | .noHost => "'" ++ value ++ "' has no host"

end BaseUrlError

namespace Problem

/-- The message for a field that has a bad value. -/
def invalidField (field message : String) : String :=
  "Invalid field '" ++ field ++ "': " ++ message

/-- The decimal text of a number. -/
def natText (n : Nat) : String :=
  String.ofList (Number.digits n)

/-- The message for the problem. -/
def message : Problem → String
  | .listenAddress address =>
    "Invalid listen address '" ++ String.ofList address ++ "': " ++ SocketAddress.syntaxMessage
  | .logFilter fault => invalidField "log_level" fault
  | .missing field switch =>
    "Missing required field: " ++ field ++ " (required when " ++ switch ++ " is true)"
  | .baseUrl field value e => "Invalid upstream URL in '" ++ field ++ "': " ++ e.message value
  | .zero field => invalidField field "must be greater than 0"
  | .lookupTooLong timeout interval =>
    invalidField "discovery_timeout_secs"
      ("must be shorter than discovery_interval_secs (" ++ natText timeout ++ " >= " ++
        natText interval ++ ")")
  | .rate field r =>
    invalidField field
      ("must be a positive rate with a representable refill period, got " ++ r.text)

end Problem

/-- The problem, if the condition does not hold. -/
def ensure (ok : Bool) (p : Problem) : List Problem :=
  if ok then [] else [p]

/-- Problems with the address to listen on. -/
def listenProblems (s : Settings) : List Problem :=
  ensure (SocketAddress.ofChars? s.listenAddress).isSome (.listenAddress s.listenAddress)

/-- Problems with the log filter. -/
def logProblems (read : Log.FilterReader) (s : Settings) : List Problem :=
  match read s.logLevel with
  | .ok _ => []
  | .error fault => [.logFilter fault]

/-- Problems with authentication. -/
def authProblems (s : Settings) : List Problem :=
  ensure (!s.authEnabled || s.token?.isSome) (.missing "auth_token" "auth_enabled")

/-- Problems with the registry. -/
def discoveryProblems (s : Settings) : List Problem :=
  [ ("discovery_namespace", s.discoveryNamespace), ("primary_selector", s.primarySelector),
    ("analyzer_selector", s.analyzerSelector), ("cluster_domain", s.clusterDomain) ].flatMap
    fun (field, value) => ensure (!Text.allBlank value) (.missing field "discovery_enabled")

/-- Problems with the URL in a field. -/
def urlProblems (field value : String) : List Problem :=
  match baseUrl? value with
  | .ok _ => []
  | .error e => [.baseUrl field value e]

/-- Problems with the fixed URLs. -/
def staticProblems (s : Settings) : List Problem :=
  urlProblems "primary_url" s.primaryUrl ++
    match s.analyzerUrl with
    | none => []
    | some url => urlProblems "analyzer_url" url

/-- Problems with lengths of time. -/
def timeProblems (s : Settings) : List Problem :=
  let zeros :=
    [ ("discovery_interval_secs", s.discoveryIntervalSecs),
      ("discovery_timeout_secs", s.discoveryTimeoutSecs),
      ("upstream_timeout_secs", s.backendTimeoutSecs),
      ("upstream_connect_timeout_secs", s.backendConnectTimeoutSecs) ].flatMap
      fun (field, value) => ensure (value != 0) (.zero field)
  zeros ++
    ensure (s.discoveryTimeoutSecs == 0 || s.discoveryTimeoutSecs < s.discoveryIntervalSecs)
      (.lookupTooLong s.discoveryTimeoutSecs s.discoveryIntervalSecs)

/-- Holds for rates that have a quota. -/
def hasQuota (perSecond : Number.Binary64) : Bool :=
  (Limiter.Rate.quota? ⟨perSecond, 1⟩).isOk

/-- Problems with the limits, if there are any. -/
def limitProblems (s : Settings) : List Problem :=
  if s.rateLimitEnabled then
    ensure (hasQuota s.rateLimitRps) (.rate "rate_limit_rps" s.rateLimitRps) ++
      (s.rateLimitClientRps.map fun r => ensure (hasQuota r) (.rate "rate_limit_client_rps" r)).getD
        [] ++
      ensure (s.rateLimitBurst != 0) (.zero "rate_limit_burst") ++
      ensure (s.rateLimitClientBurst != some 0) (.zero "rate_limit_client_burst") ++
      ensure (s.rateLimitMaxClients != 0) (.zero "rate_limit_max_clients") ++
      ensure (s.rateLimitClientIdleSecs != 0) (.zero "rate_limit_client_idle_secs")
  else []

/-- Everything that is wrong with the settings. -/
def problems (read : Log.FilterReader) (s : Settings) : List Problem :=
  s.listenProblems ++ s.logProblems read ++ s.authProblems ++
    (if s.discoveryEnabled then s.discoveryProblems else s.staticProblems) ++
    s.timeProblems ++ s.limitProblems

/-- Why settings are rejected: for one problem, or for several. -/
inductive Rejection where
  | one (problem : Problem)
  | several (problems : List Problem)
  deriving DecidableEq, Repr

namespace Rejection

/-- The message for the rejection. -/
def message : Rejection → String
  | .one p => p.message
  | .several ps => "Validation failed: " ++ Text.joined "; " (ps.map Problem.message)

end Rejection

/-- Accepts settings without problems. -/
def validate (read : Log.FilterReader) (s : Settings) : Except Rejection Unit :=
  match s.problems read with
  | [] => .ok ()
  | [p] => .error (.one p)
  | ps => .error (.several ps)

end Settings

end ApiGateway
