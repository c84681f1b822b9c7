import ApiGateway.Registry.Resolver
import Mathlib.Tactic.Common

/-!
# An analyzer that need not be there

Where the analyzer is optional, a resolution that finds the primary backend depends on the analyzer in one way only:
the registry has to answer when it is asked for it. Whatever services it lists then, the resolution succeeds, and the
analyzer is there exactly if they offer a URL; a registry that does not answer for the analyzer fails the resolution and
takes the readiness away, although the primary backend was found (`outcome_of_optional`).

That services offer a URL is said by `Offers`, without the functions that look for it; `select?_eq_ok_some_iff` and
`select?_of_optional` relate the two.
-/

namespace ApiGateway.Registry

open Discovery

variable {services : List Service} {settings : Settings} {backend : Backend} {selector : String} {url : Url}

/-- Services offer the URL that is made of the one with the least name, its preferred port and the settings. -/
def Offers (services : List Service) (settings : Settings) (url : Url) : Prop :=
  ∃ s port, pick services = some s ∧ pickPort s.ports = some port ∧
    Url.ofChars? (urlText (s.name.getD "") (s.home.getD settings.discoveryNamespace) settings.clusterDomain
      port.number) = .ok url

/-- A service has a URL exactly if a port can be picked and the text with it is a URL. -/
lemma serviceUrl?_eq_ok_iff {s : Service} {home domain : String} :
    serviceUrl? s home domain backend = .ok url ↔
      ∃ port, pickPort s.ports = some port ∧
        Url.ofChars? (urlText (s.name.getD "") (s.home.getD home) domain port.number) = .ok url := by
  unfold serviceUrl?
  cases pickPort s.ports with
  | none => simp
  | some port =>
    simp only [Option.some.injEq, exists_eq_left']
    cases Url.ofChars? (urlText (s.name.getD "") (s.home.getD home) domain port.number) with
    | error e => simp
    | ok read => simp

/-- Whether the backend has to be there does not matter to what is found for it. -/
lemma select?_eq_ok_some_iff {required : Bool} :
    select? services backend selector required settings.discoveryNamespace settings.clusterDomain = .ok (some url) ↔
      Offers services settings url := by
  unfold select? Offers
  cases pick services with
  | none => cases required <;> simp
  | some s =>
    simp only [Option.some.injEq, exists_and_left, exists_eq_left']
    have hservice : serviceUrl? s settings.discoveryNamespace settings.clusterDomain backend = .ok url ↔ _ :=
      serviceUrl?_eq_ok_iff
    rw [← hservice]
    cases serviceUrl? s settings.discoveryNamespace settings.clusterDomain backend with
    | error e => cases required <;> simp
    | ok read => simp

/-- Nothing that is wrong with the services of an optional backend is an error. -/
lemma select?_of_optional (services : List Service) (settings : Settings) (backend : Backend) (selector : String) :
    ∃ found,
      select? services backend selector false settings.discoveryNamespace settings.clusterDomain = .ok found := by
  unfold select?
  cases pick services with
  | none => exact ⟨none, rfl⟩
  | some s =>
    simp only
    cases serviceUrl? s settings.discoveryNamespace settings.clusterDomain backend with
    | error e => exact ⟨none, rfl⟩
    | ok url => exact ⟨some url, rfl⟩

/-- Where the registry lists services the backend is selected from them. -/
lemma resolveBackend?_of_listed {list : Listing} (h : list selector = .ok services) (settings : Settings)
    (backend : Backend) (required : Bool) :
    resolveBackend? list settings backend selector required =
      select? services backend selector required settings.discoveryNamespace settings.clusterDomain := by
  unfold resolveBackend?
  rw [h]
  rfl

/-- Where the registry fails so does the backend, whether it is required or not. -/
lemma resolveBackend?_of_unlisted {list : Listing} {e : Error} (h : list selector = .error e) (settings : Settings)
    (backend : Backend) (required : Bool) : resolveBackend? list settings backend selector required = .error e := by
  unfold resolveBackend?
  rw [h]
  rfl

/-- Where the primary backend is found, the look-up of the analyzer decides the resolution. -/
lemma resolve?_of_primary {list : Listing}
    (h : resolveBackend? list settings .primary settings.primarySelector true = .ok (some url)) (now : Stamp) :
    resolve? list settings now =
      (resolveBackend? list settings .analyzer settings.analyzerSelector settings.analyzerRequired).map
        fun analyzer => { primary := some url, analyzer, resolvedAt := now } := by
  unfold resolve?
  rw [h]
  rfl

/-- A resolution with an optional analyzer, in which the services of the primary backend offer a URL and the registry
answers in time, succeeds if the registry lists services for the analyzer, whatever they are; the analyzer is then
there exactly if they offer a URL. If the registry fails to list services for the analyzer, the resolution fails for
that, and the gateway is not ready after it. -/
theorem outcome_of_optional {list : Listing} {wait : String → Nat} {limit : Nat}
    (hoptional : settings.analyzerRequired = false) (hlisted : list settings.primarySelector = .ok services)
    (hoffers : Offers services settings url)
    (hintime : wait settings.primarySelector + wait settings.analyzerSelector ≤ limit) (now : Stamp) (t : Topology) :
    (∀ others, list settings.analyzerSelector = .ok others →
        ∃ analyzer,
          (resolution list wait settings now).outcome limit =
              .ok { primary := some url, analyzer, resolvedAt := now } ∧
            (∀ other, analyzer = some other ↔ Offers others settings other) ∧
            (settle ((resolution list wait settings now).outcome limit) t).ready = true) ∧
      ∀ e, list settings.analyzerSelector = .error e →
        (resolution list wait settings now).outcome limit = .error e ∧
          (settle ((resolution list wait settings now).outcome limit) t).ready = false := by
  have hprimary : resolveBackend? list settings .primary settings.primarySelector true = .ok (some url) := by
    rw [resolveBackend?_of_listed hlisted]
    exact select?_eq_ok_some_iff.mpr hoffers
  have hdelay : (resolution list wait settings now).delay ≤ limit := by
    simp only [resolution, hprimary]
    exact hintime
  -- the primary backend is found in time, so the listing of the analyzer decides
  have houtcome : (resolution list wait settings now).outcome limit =
      (resolveBackend? list settings .analyzer settings.analyzerSelector false).map
        fun analyzer => { primary := some url, analyzer, resolvedAt := now } := by
    rw [Resolution.outcome, if_pos hdelay, ← hoptional]
    exact resolve?_of_primary hprimary now
  rw [houtcome]
  constructor
  · intro others hothers
    obtain ⟨analyzer, hanalyzer⟩ := select?_of_optional others settings .analyzer settings.analyzerSelector
    rw [resolveBackend?_of_listed hothers, hanalyzer]
    refine ⟨analyzer, rfl, ?_, rfl⟩
    intro other
    have hselect : select? others .analyzer settings.analyzerSelector false settings.discoveryNamespace
        settings.clusterDomain = .ok (some other) ↔ Offers others settings other := select?_eq_ok_some_iff
    rw [← hselect, hanalyzer, Except.ok.injEq]
  · intro e he
    rw [resolveBackend?_of_unlisted he]
    exact ⟨rfl, rfl⟩

/-- A service for the primary backend. -/
def metricsService : Service :=
  ⟨some "metrics-api", none, [⟨some "grpc", 9000⟩, ⟨some "http", 8000⟩]⟩

/-- Its URL. -/
def metricsUrl : Url where
  scheme := "http".toList
  authority := some { host := some (.domain "metrics-api.default.svc.cluster.local".toList), port := some 8000 }
  path := ['/']
  query := none
  fragment := none

/-- A registry that lists this service for the primary backend and answers as given for other selectors. -/
def answering (answer : Except Error (List Service)) : Listing :=
  fun selector => if selector = "app=metrics-api" then .ok [metricsService] else answer

/-- An analyzer whose service has no port is absent, and a registry that refuses to answer for the analyzer fails the
resolution. -/
theorem outcome_of_optional_answering :
    ({} : Settings).analyzerRequired = false ∧ Offers [metricsService] {} metricsUrl ∧
      (resolution (answering (.ok [⟨some "analyzer", none, []⟩])) (fun _ => 2) {} ⟨0, ""⟩).outcome 5 =
        .ok { primary := some metricsUrl, analyzer := none, resolvedAt := ⟨0, ""⟩ } ∧
      (resolution (answering (.error (.registry "forbidden"))) (fun _ => 2) {} ⟨0, ""⟩).outcome 5 =
        .error (.registry "forbidden") := by
  have hoffers : Offers [metricsService] {} metricsUrl :=
    ⟨metricsService, ⟨some "http", 8000⟩, by decide, by decide, by decide +kernel⟩
  have hnone : ¬ ∃ url, Offers [⟨some "analyzer", none, []⟩] {} url := by
    rintro ⟨_, _, _, hpick, hport, _⟩
    cases hpick
    cases hport
  have habsent := (@outcome_of_optional _ _ _ (answering (.ok [⟨some "analyzer", none, []⟩])) (fun _ => 2) 5
    rfl rfl hoffers (by decide) ⟨0, ""⟩ {}).1 _ rfl
  have hrefused := (@outcome_of_optional _ _ _ (answering (.error (.registry "forbidden"))) (fun _ => 2) 5
    rfl rfl hoffers (by decide) ⟨0, ""⟩ {}).2 _ rfl
  obtain ⟨analyzer, houtcome, hanalyzer, _⟩ := habsent
  have habsent : analyzer = none := by
    rw [Option.eq_none_iff_forall_ne_some]
    exact fun url h => hnone ⟨url, (hanalyzer url).mp h⟩
  rw [habsent] at houtcome
  exact ⟨rfl, hoffers, houtcome, hrefused.1⟩

end ApiGateway.Registry
