import ApiGateway.Proofs.Gateway.Bearer
import ApiGateway.Proofs.Gateway.Setup

/-!
# The gate and its own token

Settings that are accepted with authentication on have a token, and the gateway that they set up asks for it. A request
that brings just this token passes the gate if the token is a text that a field value can carry (`check_own_token`).
Any other token, such as one with a letter beyond ASCII, is accepted as well, and then no request passes.

The token is trimmed when the settings are read, so it is one that can be presented (`Settings.isToken_of_token?`).
-/

namespace ApiGateway

/-- The token of settings is not empty, and there are no blanks around it. -/
lemma Settings.isToken_of_token? {s : Settings} {token : List Char} (h : s.token? = some token) :
    Auth.Gate.IsToken token := by
  obtain ⟨written, _, htoken⟩ := Option.bind_eq_some_iff.mp h
  simp only at htoken
  split at htoken
  · cases htoken
  · next hne =>
    cases htoken
    exact ⟨fun hnil => hne (by rw [hnil, List.isEmpty_nil]), Text.trim_trim _⟩

namespace Auth.Gate

open Http

variable {token path : List Char} {headers : Fields}

/-- The field value that presents a token. -/
def credential (token : List Char) : FieldValue :=
  .ofText (String.ofList (scheme ++ token))

/-- A credential has a text exactly if its token has characters of field texts only. -/
lemma text?_credential (token : List Char) :
    (credential token).text? = if token.all FieldValue.isTextChar then some (scheme ++ token) else none := by
  rw [credential, FieldValue.text?_ofText, String.toList_ofList, List.all_append,
    show scheme.all FieldValue.isTextChar = true by decide, Bool.true_and]

/-- The scheme and the token present the token. -/
lemma presents_self (token : List Char) : Presents token (scheme ++ token) :=
  ⟨[], [], [], nofun, nofun, nofun, by simp⟩

/-- A gate lets its own token pass if a field value can carry it, and otherwise takes it for no credential. -/
lemma check_credential (htoken : IsToken token) (hpath : Probe.isExempt path = false)
    (hvalues : headers.values fieldName = [credential token]) :
    (Gate.mk (some token)).check path headers =
      if token.all FieldValue.isTextChar then .authorized else .denied .malformed := by
  have hfirst : headers.first? fieldName = some (credential token) := by
    rw [Fields.first?, hvalues]
    rfl
  have htext := text?_credential token
  cases hcarried : token.all FieldValue.isTextChar with
  | true =>
    rw [hcarried, if_pos rfl] at htext
    exact (check_eq_authorized_iff htoken hpath).mpr ⟨_, _, hfirst, htext, presents_self token⟩
  | false =>
    rw [hcarried, if_neg Bool.false_ne_true] at htext
    rw [check, hpath, hfirst]
    simp only [htext]
    rfl

/-- A gate that some request passes has a token that a field value can carry. -/
lemma all_of_check (htoken : IsToken token) (hpath : Probe.isExempt path = false)
    (h : (Gate.mk (some token)).check path headers = .authorized) : token.all FieldValue.isTextChar = true := by
  obtain ⟨value, text, _, htext, _, _, _, _, _, _, rfl⟩ := (check_eq_authorized_iff htoken hpath).mp h
  -- the token is a part of the text that the field value carries
  rw [List.all_eq_true]
  intro c hc
  apply FieldValue.isTextChar_of_mem_text? htext
  exact List.mem_append_left _ (List.mem_append_right _ hc)

end Auth.Gate

namespace Gateway

open Auth

/-- Accepted settings that ask for a token have one, and it is that of their gate. -/
lemma gateOf?_of_validate {read : Log.FilterReader} {s : Settings} (h : s.validate read = .ok ())
    (hauth : s.authEnabled = true) :
    ∃ token, s.token? = some token ∧ gateOf? s = .ok ⟨some token⟩ := by
  have hproblems := (Settings.auth_limit_of_validate h).1
  cases htoken : s.token? with
  | none =>
    rw [Settings.authProblems, hauth, htoken] at hproblems
    cases hproblems
  | some token =>
    refine ⟨token, rfl, ?_⟩
    rw [gateOf?, hauth, htoken]
    rfl

/-- A gateway has the gate of its settings. -/
lemma gate_of_ofSettings? {s : Settings} {gate : Gate} (h : gateOf? s = .ok gate) {now : Nat}
    {listing : Limiter.Listing} {g : Gateway} (hg : ofSettings? s now listing = .ok g) : g.gate = gate := by
  rw [ofSettings?_of_gate h] at hg
  cases hlimiter : limiterOf? s now listing with
  | error e =>
    rw [hlimiter] at hg
    cases hg
  | ok limiter =>
    rw [hlimiter] at hg
    cases hg
    rfl

/-- Accepted settings that ask for a token set up a gateway, if the clock counts the period of all requests, and its
gate lets a request with just this token pass on every path but those of the probes, provided that a field value can
carry the token. Otherwise such a request is refused, and so is every other one. -/
theorem check_own_token {read : Log.FilterReader} {s : Settings} (h : s.validate read = .ok ())
    (hauth : s.authEnabled = true) (now : Nat) (listing : Limiter.Listing) :
    (s.Counted → ∃ g, ofSettings? s now listing = .ok g) ∧
      ∃ token, s.token? = some token ∧
        ∀ g, ofSettings? s now listing = .ok g → ∀ path headers, Probe.isExempt path = false →
          (headers.values Gate.fieldName = [Gate.credential token] →
            g.gate.check path headers =
              if token.all Http.FieldValue.isTextChar then .authorized else .denied .malformed) ∧
          (token.all Http.FieldValue.isTextChar = false → g.gate.check path headers ≠ .authorized) := by
  obtain ⟨token, htoken, hgate⟩ := gateOf?_of_validate h hauth
  have hpresentable := Settings.isToken_of_token? htoken
  refine ⟨?_, token, htoken, ?_⟩
  · intro hcounted
    have hlimit : ∀ p ∈ s.limitProblems, p = .zero "rate_limit_client_idle_secs" := by
      rw [(Settings.auth_limit_of_validate h).2]
      nofun
    obtain ⟨limiter, hlimiter⟩ := (limiterOf?_of_no_problem hlimit now listing).1 hcounted
    rw [ofSettings?_of_gate hgate, hlimiter]
    exact ⟨_, rfl⟩
  · intro g hg path headers hpath
    rw [gate_of_ofSettings? hgate hg]
    refine ⟨Gate.check_credential hpresentable hpath, ?_⟩
    intro hnot hauthorized
    rw [Gate.all_of_check hpresentable hpath hauthorized] at hnot
    cases hnot

/-- Settings that ask for a token with blanks around it. -/
def locked (token : String) : Settings :=
  { authEnabled := true, authToken := some (" " ++ token ++ "\t") }

/-- A token of ASCII letters opens its gate, and one with an accent is accepted but opens nothing. -/
theorem check_own_token_locked :
    ((locked "s3cret").validate readFilter = .ok () ∧ (locked "s3cret").authEnabled = true ∧ (locked "s3cret").Counted ∧
        Probe.isExempt "/api".toList = false ∧
        Http.Fields.values [⟨Gate.fieldName, Gate.credential "s3cret".toList⟩] Gate.fieldName =
          [Gate.credential "s3cret".toList] ∧
        ∃ g, ofSettings? (locked "s3cret") 0 .made = .ok g ∧
          g.gate.check "/api".toList [⟨Gate.fieldName, Gate.credential "s3cret".toList⟩] = .authorized) ∧
      ((locked "sécret").validate readFilter = .ok () ∧ (locked "sécret").authEnabled = true ∧ (locked "sécret").Counted ∧
        "sécret".toList.all Http.FieldValue.isTextChar = false ∧
        ∃ g, ofSettings? (locked "sécret") 0 .made = .ok g ∧
          g.gate.check "/api".toList [⟨Gate.fieldName, Gate.credential "sécret".toList⟩] = .denied .malformed ∧
          ∀ headers, g.gate.check "/api".toList headers ≠ .authorized) := by
  have hplain : (locked "s3cret").validate readFilter = .ok () := Settings.validate_eq_ok_iff.mpr (by decide +kernel)
  have haccented : (locked "sécret").validate readFilter = .ok () := Settings.validate_eq_ok_iff.mpr (by decide +kernel)
  have hpath : Probe.isExempt "/api".toList = false := by decide
  obtain ⟨hstarts, token, htoken, hcheck⟩ := check_own_token hplain rfl 0 .made
  obtain ⟨hstarts', token', htoken', hcheck'⟩ := check_own_token haccented rfl 0 .made
  have hown : (locked "s3cret").token? = some "s3cret".toList := by decide +kernel
  have hown' : (locked "sécret").token? = some "sécret".toList := by decide +kernel
  cases htoken.symm.trans hown
  cases htoken'.symm.trans hown'
  have hcounted : ∀ token, (locked token).Counted := fun _ => Settings.counted_of_default rfl
  obtain ⟨g, hg⟩ := hstarts (hcounted _)
  obtain ⟨g', hg'⟩ := hstarts' (hcounted _)
  have hvalues : ∀ value, Http.Fields.values [⟨Gate.fieldName, value⟩] Gate.fieldName = [value] :=
    fun _ => by simp [Http.Fields.values]
  have hnot : "sécret".toList.all Http.FieldValue.isTextChar = false := by decide +kernel
  refine ⟨⟨hplain, rfl, hcounted _, hpath, hvalues _, g, hg, ?_⟩, haccented, rfl, hcounted _, hnot, g', hg', ?_, ?_⟩
  · exact (hcheck g hg _ _ hpath).1 (hvalues _)
  · exact (hcheck' g' hg' _ _ hpath).1 (hvalues _)
  · exact fun headers => (hcheck' g' hg' _ headers hpath).2 hnot

end Gateway

end ApiGateway
