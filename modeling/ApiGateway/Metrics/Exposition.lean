import ApiGateway.Metrics.Basic
import ApiGateway.Number.Integer
import ApiGateway.Number.Shortest
import ApiGateway.Text.Blank

/-!
# Metrics as text

Families stand in the order of their names; each gives its help, its kind and one line per sample.
Within a family the samples are ordered by the values of their labels, the labels by their names. A
family without samples is left out.
-/

namespace ApiGateway.Metrics

open Number (Binary64)

/-- A line of a family: what follows the name of the family, the labels in the order in which they are written, and
the value. -/
structure Sample where
  ending : String := ""
  labels : List (String × String) := []
  value : Binary64
  deriving DecidableEq, Repr, Inhabited

/-- The kind of a family: counts that only grow, a value of the moment, or counts by buckets. -/
inductive Kind where
  | counter
  | gauge
  | histogram
  deriving DecidableEq, Repr, Inhabited

/-- The name of a kind. -/
def Kind.name : Kind → String
  | .counter => "counter"
  | .gauge => "gauge"
  | .histogram => "histogram"

/-- A family of samples, with its name, what it says and its kind. -/
structure Family where
  name : String
  help : String
  kind : Kind
  samples : List Sample
  deriving DecidableEq, Repr, Inhabited

/-- What all names of families begin with. -/
def lead : String := "meridian_"

/-- A label value with backslashes, quotes and line ends escaped. -/
def escaped (value : String) : List Char :=
  value.toList.flatMap fun c =>
    if c = '\\' then ['\\', '\\'] else if c = '"' then ['\\', '"']
    else if c = '\n' then ['\\', 'n'] else [c]

/-- A label with its value in quotes. -/
def labelText (label : String × String) : String :=
  label.1 ++ "=\"" ++ String.ofList (escaped label.2) ++ "\""

/-- The line of a sample. -/
def Sample.text (family : String) (s : Sample) : String :=
  let labels :=
    if s.labels.isEmpty then ""
    else "\x7b" ++ Text.joined "," (s.labels.map labelText) ++ "\x7d"
  family ++ s.ending ++ labels ++ " " ++ s.value.text ++ "\n"

/-- The lines of a family. -/
def Family.text (f : Family) : String :=
  "# HELP " ++ f.name ++ " " ++ f.help ++ "\n# TYPE " ++ f.name ++ " " ++ f.kind.name ++ "\n" ++
    String.join (f.samples.map (·.text f.name))

/-- Holds if one list of texts comes before another or is the same. -/
def textsLe : List String → List String → Bool
  | [], _ => true
  | _ :: _, [] => false
  | a :: as, b :: bs => if a = b then textsLe as bs else a < b

/-- Names and values of labels, ordered by name. -/
def labelled (names : List String) (values : Labels) : List (String × String) :=
  (names.zip values).mergeSort fun a b => a.1 ≤ b.1

/-- Entries with their labels, in the order of the values. -/
def ordered {α : Type} (names : List String) (entries : List (Labels × α)) :
    List (List (String × String) × α) :=
  (entries.map fun (values, a) => (labelled names values, a)).mergeSort fun a b =>
    textsLe (a.1.map Prod.snd) (b.1.map Prod.snd)

/-- The family of a tally. -/
def counterFamily (name help : String) (names : List String) (t : Tally) : Family where
  name := lead ++ name
  help := help
  kind := .counter
  samples := (ordered names t.entries).map fun (labels, n) => { labels, value := .ofNat n }

/-- The family of a single value. -/
def gaugeFamily (name help : String) (value : Int) : Family where
  name := lead ++ name
  help := help
  kind := .gauge
  samples := [{ value := .ofInt value }]

/-- The samples of a histogram: a count for each bucket, the sum and the count. -/
def histogramSamples (labels : List (String × String)) (h : Histogram) : List Sample :=
  let bucket (bound : String) (n : Nat) : Sample :=
    { ending := "_bucket", labels := labels ++ [("le", bound)], value := .ofNat n }
  List.zipWith (fun bound n => bucket bound.text n) bounds h.within ++
    [ bucket "+Inf" h.count, { ending := "_sum", labels, value := h.sum },
      { ending := "_count", labels, value := .ofNat h.count } ]

/-- The family of histograms. -/
def histogramFamily (name help : String) (names : List String) (hs : Histograms) : Family where
  name := lead ++ name
  help := help
  kind := .histogram
  samples := (ordered names hs.entries).flatMap fun (labels, h) => histogramSamples labels h

/-- The families that have samples, in the order of their names. -/
def families (m : Metrics) : List Family :=
  [ counterFamily "auth_failures_total" "Requests rejected by the bearer token check."
      ["reason"] m.authFailures,
    gaugeFamily "discovery_last_success_timestamp_seconds"
      "Unix time of the most recent successful topology refresh." m.lastSuccess,
    gaugeFamily "discovery_ready" "1 when the most recent topology refresh succeeded." m.ready,
    counterFamily "discovery_refresh_total" "Topology refresh attempts by outcome."
      ["outcome"] m.refreshes,
    counterFamily "proxy_errors_total" "Transport failures while forwarding to an upstream."
      ["target", "kind"] m.proxyErrors,
    gaugeFamily "rate_limit_tracked_clients" "Clients currently holding a rate limit bucket."
      m.trackedClients,
    counterFamily "rate_limited_total" "Requests rejected by the rate limiter."
      ["scope"] m.rateLimited,
    histogramFamily "request_duration_seconds"
      "Latency of HTTP requests handled by the gateway." ["route", "method"] m.durations,
    counterFamily "requests_total" "Total number of HTTP requests handled by the gateway."
      ["route", "method", "status"] m.requests,
    counterFamily "unavailable_total"
      "Requests answered 503 because no upstream location was known." ["reason"]
      m.unavailable ].filter fun f => !f.samples.isEmpty

/-- The text of all metrics. -/
def text (m : Metrics) : String :=
  String.join (m.families.map Family.text)

end ApiGateway.Metrics
