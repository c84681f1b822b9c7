import ApiGateway.Number.Shortest
import ApiGateway.Settings.Basic
import ApiGateway.Settings.Layers
import ApiGateway.Text.Quoted

/-!
# Settings from layers

Each field of the settings is read from the entry of its key, or has its default if nothing is set. A
value is read as what the field wants if it can stand for that: numbers and truth values are written out
for a text, `on` and `off` are numbers and truth values, a fraction is rounded. What cannot is a
`Mismatch`.
-/

namespace ApiGateway.Settings

/-- What a field holds that does not fit. -/
inductive Found where
  | nothing
  | int (i : Int)
  | nat (n : Nat)
  | text (s : String)
  | list
  | table
  deriving DecidableEq, Repr

/-- What a field wants. A natural number has no sign, and a word is one that has so many bits. -/
inductive Wanted where
  | text
  | bool
  | float
  | integer
  | natural
  | word (bits : Nat)
  deriving DecidableEq, Repr

/-- Why a value does not fit: it is of the wrong kind, names a log format that there is not, or names none. -/
inductive Fault where
  | kind (found : Found) (wanted : Wanted) (origin : Option Origin)
  | unknownFormat (name : String)
  | noFormat
  deriving DecidableEq, Repr

/-- A key with a value that does not fit, and what is wrong with it. -/
structure Mismatch where
  key : String
  fault : Fault
  deriving DecidableEq, Repr

namespace Found

/-- How a message names what was found. -/
def name : Found → String
  | .nothing => "unit value"
  | .int i => "64-bit integer \u0060" ++ Number.intText i ++ "\u0060"
  | .nat n => "64-bit unsigned integer \u0060" ++ String.ofList (Number.digits n) ++ "\u0060"
  | .text s => "string " ++ Text.quoted s
  | .list => "sequence"
  | .table => "map"

end Found

namespace Wanted

/-- How a message names what was wanted. -/
def name : Wanted → String
  | .text => "a string"
  | .bool => "a boolean"
  | .float => "a floating point"
  | .integer => "an integer"
  | .natural => "an unsigned 64 bit or less integer"
  | .word bits => "an unsigned " ++ String.ofList (Number.digits bits) ++ " bit integer"

end Wanted

namespace Mismatch

/-- How a message names the key. -/
def place (key : String) : String :=
  " for key \u0060" ++ key ++ "\u0060"

/-- The message for a mismatch. -/
def message (m : Mismatch) : String :=
  match m.fault with
  | .kind found wanted origin =>
    "invalid type: " ++ found.name ++ ", expected " ++ wanted.name ++ place m.key ++
      match origin with
      | none => ""
      | some origin => " in " ++ origin.name
  | .unknownFormat name =>
    "enum LogFormat does not have variant constructor " ++ name ++ place m.key
  | .noFormat =>
    "value of enum LogFormat should be represented by either string or table with exactly one key" ++
      place m.key

end Mismatch

/-! ## What values stand for -/

/-- The words that stand for one and for zero, in lower case. -/
def switchOfWord? (word : List Char) : Option Bool :=
  if word ∈ ["true".toList, "on".toList, "yes".toList] then some true
  else if word ∈ ["false".toList, "off".toList, "no".toList] then some false
  else none

namespace Entry

/-- The fault of an entry of the wrong kind. -/
def reject {α : Type} (e : Entry) (found : Found) (wanted : Wanted) : Except Fault α :=
  .error (.kind found wanted e.origin)

/-- What the entry gives for a text. -/
def text (e : Entry) : Except Fault String :=
  match e.value with
  | .text s => .ok s
  | .bool b => .ok (if b then "true" else "false")
  | .int i => .ok (Number.intText i)
  | .float x => .ok x.text
  | .null => e.reject .nothing .text
  | .list _ => e.reject .list .text
  | .table _ => e.reject .table .text

/-- What the entry gives for a truth value; a number is true unless it is zero. -/
def bool (e : Entry) : Except Fault Bool :=
  match e.value with
  | .bool b => .ok b
  | .int i => .ok (i != 0)
  | .float x => .ok (!x.isZero)
  | .text s =>
    let word := Text.lowerCase s.toList
    if word = ['1'] then .ok true
    else if word = ['0'] then .ok false
    else
      match switchOfWord? word with
      | some b => .ok b
      | none => e.reject (.text (String.ofList word)) .bool
  | .null => e.reject .nothing .bool
  | .list _ => e.reject .list .bool
  | .table _ => e.reject .table .bool

/-- What the entry gives for a floating-point number. -/
def float (e : Entry) : Except Fault Number.Binary64 :=
  match e.value with
  | .float x => .ok x
  | .int i => .ok (.ofInt i)
  | .bool b => .ok (.ofNat b.toNat)
  | .text s =>
    match switchOfWord? (Text.lowerCase s.toList) with
    | some b => .ok (.ofNat b.toNat)
    | none =>
      match Number.Binary64.ofText? s.toList with
      | some x => .ok x
      | none => e.reject (.text s) .float
  | .null => e.reject .nothing .float
  | .list _ => e.reject .list .float
  | .table _ => e.reject .table .float

/-- What the entry gives for a natural number of 64 bits; a fraction is rounded, a half going away from
zero. -/
def nat (e : Entry) : Except Fault Nat :=
  match e.value with
  | .int i => if 0 ≤ i then .ok i.toNat else e.reject (.int i) .natural
  | .float x => .ok (x.toNatSaturating (Nat.pow 2 64 - 1))
  | .bool b => .ok b.toNat
  | .text s =>
    match switchOfWord? (Text.lowerCase s.toList) with
    | some b => .ok b.toNat
    | none =>
      match Number.uint64OfText? s.toList with
      | some n => .ok n
      | none => e.reject (.text s) .integer
  | .null => e.reject .nothing .integer
  | .list _ => e.reject .list .integer
  | .table _ => e.reject .table .integer

/-- What the entry gives for a natural number of so many bits. -/
def word (bits : Nat) (e : Entry) : Except Fault Nat := do
  let n ← e.nat
  if n < Nat.pow 2 bits then return n else throw (.kind (.nat n) (.word bits) none)

/-- What the entry gives for the number of a port. -/
def port (e : Entry) : Except Fault Port :=
  (e.word 16).map UInt16.ofNat

/-- What the entry gives where a value may be absent. -/
def optional {α : Type} (read : Entry → Except Fault α) (e : Entry) : Except Fault (Option α) :=
  match e.value with
  | .null => .ok none
  | _ => (read e).map some

/-- The log format of a name as it is written. -/
def formatOfName (name : String) : Except Fault Log.Format :=
  match [Log.Format.json, Log.Format.pretty].find? fun f => f.name = name with
  | some f => .ok f
  | none => .error (.unknownFormat name)

/-- What the entry gives for a log format: its name, which may also be the one key of a table. -/
def format (e : Entry) : Except Fault Log.Format :=
  match e.value with
  | .text s => formatOfName s
  | .table [(key, _)] => formatOfName key
  | _ => .error .noFormat

end Entry

/-- What the layers give for a field: its default, or what its entry is read as. -/
def field {α : Type} (layers : Layers) (key : String) (read : Entry → Except Fault α)
    (default : α) : Except Mismatch α :=
  match layers.get? key with
  | none => .ok default
  | some e => (read e).mapError fun fault => { key, fault }

/-- A field that is not set has its default. -/
theorem field_of_unset {α : Type} {layers : Layers} {key : String} (h : layers.get? key = none)
    (read : Entry → Except Fault α) (default : α) : field layers key read default = .ok default := by
  simp [field, h]

/-- The settings that the layers give. -/
def ofLayers? (layers : Layers) : Except Mismatch Settings := do
  let d : Settings := {}
  return {
    listenHost := ← field layers "listen_host" Entry.text d.listenHost
    port := ← field layers "port" Entry.port d.port
    logLevel := ← field layers "log_level" Entry.text d.logLevel
    logFormat := ← field layers "log_format" Entry.format d.logFormat
    authEnabled := ← field layers "auth_enabled" Entry.bool d.authEnabled
    authToken := ← field layers "auth_token" (Entry.optional Entry.text) d.authToken
    discoveryEnabled := ← field layers "discovery_enabled" Entry.bool d.discoveryEnabled
    discoveryNamespace := ← field layers "discovery_namespace" Entry.text d.discoveryNamespace
    primarySelector := ← field layers "primary_selector" Entry.text d.primarySelector
    analyzerSelector := ← field layers "analyzer_selector" Entry.text d.analyzerSelector
    analyzerRequired := ← field layers "analyzer_required" Entry.bool d.analyzerRequired
    discoveryIntervalSecs :=
      ← field layers "discovery_interval_secs" Entry.nat d.discoveryIntervalSecs
    discoveryTimeoutSecs := ← field layers "discovery_timeout_secs" Entry.nat d.discoveryTimeoutSecs
    clusterDomain := ← field layers "cluster_domain" Entry.text d.clusterDomain
    primaryUrl := ← field layers "primary_url" Entry.text d.primaryUrl
    analyzerUrl := ← field layers "analyzer_url" (Entry.optional Entry.text) d.analyzerUrl
    backendTimeoutSecs := ← field layers "upstream_timeout_secs" Entry.nat d.backendTimeoutSecs
    backendConnectTimeoutSecs :=
      ← field layers "upstream_connect_timeout_secs" Entry.nat d.backendConnectTimeoutSecs
    rateLimitEnabled := ← field layers "rate_limit_enabled" Entry.bool d.rateLimitEnabled
    rateLimitRps := ← field layers "rate_limit_rps" Entry.float d.rateLimitRps
    rateLimitBurst := ← field layers "rate_limit_burst" (Entry.word 32) d.rateLimitBurst
    rateLimitClientRps :=
      ← field layers "rate_limit_client_rps" (Entry.optional Entry.float) d.rateLimitClientRps
    rateLimitClientBurst :=
      ← field layers "rate_limit_client_burst" (Entry.optional (Entry.word 32)) d.rateLimitClientBurst
    rateLimitMaxClients := ← field layers "rate_limit_max_clients" Entry.nat d.rateLimitMaxClients
    rateLimitClientIdleSecs :=
      ← field layers "rate_limit_client_idle_secs" Entry.nat d.rateLimitClientIdleSecs
    shutdownTimeoutSecs := ← field layers "shutdown_timeout_secs" Entry.nat d.shutdownTimeoutSecs }

end ApiGateway.Settings
