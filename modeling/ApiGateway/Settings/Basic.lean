import ApiGateway.Limiter.Basic
import ApiGateway.Log.Format
import ApiGateway.Number.Literal
import ApiGateway.Address.Socket

/-!
# Settings

The gateway is configured by one flat record, every field of which has a default. Lengths of time are
whole seconds. A limit for clients that is not set is the limit for all requests.
-/

namespace ApiGateway

/-- The settings of the gateway: where it listens; the log; the credential that requests need; how backends are
looked up in a service registry, and where they are if they are not looked up; the rates of requests, of all and of
each client; and how many seconds each of these may take. -/
structure Settings where
  listenHost : String := "0.0.0.0"
  port : Port := 8080
  logLevel : String := "info"
  logFormat : Log.Format := .json
  authEnabled : Bool := false
  authToken : Option String := none
  discoveryEnabled : Bool := false
  discoveryNamespace : String := "default"
  primarySelector : String := "app=metrics-api"
  analyzerSelector : String := "app=release-analyzer"
  analyzerRequired : Bool := false
  discoveryIntervalSecs : Nat := 15
  discoveryTimeoutSecs : Nat := 5
  clusterDomain : String := "cluster.local"
  primaryUrl : String := "http://localhost:8000"
  analyzerUrl : Option String := none
  backendTimeoutSecs : Nat := 30
  backendConnectTimeoutSecs : Nat := 5
  rateLimitEnabled : Bool := true
  rateLimitRps : Number.Binary64 := .ofNat 50
  rateLimitBurst : Nat := 100
  rateLimitClientRps : Option Number.Binary64 := none
  rateLimitClientBurst : Option Nat := none
  rateLimitMaxClients : Nat := 10000
  rateLimitClientIdleSecs : Nat := 300
  shutdownTimeoutSecs : Nat := 15
  deriving DecidableEq, Repr, Inhabited

namespace Settings

/-- The host of the listener, in brackets if it has a colon and no bracket before it. -/
def bracketedHost (host : List Char) : List Char :=
  if host.contains ':' && host.head? != some '[' then '[' :: host ++ [']'] else host

/-- The address that the gateway listens on. -/
def listenAddress (s : Settings) : List Char :=
  bracketedHost s.listenHost.toList ++ ':' :: Number.digits s.port.toNat

/-- The token without blanks around it, if anything is left. -/
def token? (s : Settings) : Option (List Char) :=
  s.authToken.bind fun token =>
    let token := Text.trim token.toList
    if token.isEmpty then none else some token

/-- The rate of all requests. -/
def sharedRate (s : Settings) : Limiter.Rate :=
  ⟨s.rateLimitRps, s.rateLimitBurst⟩

/-- The rate of each client. -/
def clientRate (s : Settings) : Limiter.Rate :=
  ⟨s.rateLimitClientRps.getD s.rateLimitRps, s.rateLimitClientBurst.getD s.rateLimitBurst⟩

/-- How requests are to be limited, if they are. -/
def limiter? (s : Settings) : Option Limiter.Settings :=
  if s.rateLimitEnabled then
    some {
      shared := s.sharedRate
      client := s.clientRate
      maxClients := s.rateLimitMaxClients
      idle := Time.ofSeconds s.rateLimitClientIdleSecs }
  else none

end Settings

end ApiGateway
