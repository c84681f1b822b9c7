import ApiGateway.Discovery.Fixed
import ApiGateway.Proofs.Text.Trim
import ApiGateway.Settings.Validation

/-!
# Fixed locations and their validation

The two fixed locations are read twice: validation reads them to report what is wrong with them, and the resolver reads
them for its snapshot. `fixed_agreement` compares the two. They agree on every location but one that is blank:
validation reports a blank location of the analyzer, which the resolver takes for none.

A location that validation accepts is one that the resolver can read and that names a backend over the protocol
(`baseUrl?_eq_ok_iff`).
-/

namespace ApiGateway

open Discovery

/-- A URL of the protocol that the gateway speaks, with a host. -/
def Url.NamesBackend (u : Url) : Prop :=
  Settings.isHttp u.scheme = true ∧ ∃ host, u.host? = some host ∧ host.chars ≠ []

/-- Every URL of the snapshot names a backend. -/
def Snapshot.NamesBackends (s : Snapshot) : Prop :=
  ∀ backend url, s.url? backend = some url → url.NamesBackend

namespace Discovery

/-- A location that need not be there is read as a URL if it is there, and else as none. -/
def ReadAs {ε : Type} (read : String → Except ε Url) : Option String → Option Url → Prop
  | none, url? => url? = none
  | some raw, url? => ∃ url, read raw = .ok url ∧ url? = some url

variable {raw primary : String} {url : Url} {now : Stamp}

/-- A location is found exactly if it is a URL, blanks around it apart. -/
lemma location?_eq_ok_iff : location? raw = .ok url ↔ Url.ofChars? (Text.trim raw.toList) = .ok url := by
  unfold location?
  cases Url.ofChars? (Text.trim raw.toList) with
  | error e => simp
  | ok read => simp

/-- Validation accepts a location exactly if it is found and names a backend. -/
lemma baseUrl?_eq_ok_iff : Settings.baseUrl? raw = .ok url ↔ location? raw = .ok url ∧ url.NamesBackend := by
  rw [location?_eq_ok_iff]
  unfold Settings.baseUrl? Url.NamesBackend
  cases Url.ofChars? (Text.trim raw.toList) with
  | error e => simp
  | ok read =>
    simp only [Except.ok.injEq]
    constructor
    · intro h
      split at h
      · cases h
      · split at h
        · cases h
        · rename_i hscheme hhost
          cases h
          refine ⟨rfl, by simpa using hscheme, ?_⟩
          cases hread : url.host? with
          | none => simp [hread] at hhost
          | some host => exact ⟨host, rfl, by simpa [hread] using hhost⟩
    · rintro ⟨rfl, hscheme, host, hhost, hchars⟩
      simp [hscheme, hhost, hchars]

/-- Blanks around a location make no difference. -/
lemma location?_trimmed : location? (Text.trimmed raw) = .ok url ↔ location? raw = .ok url := by
  rw [location?_eq_ok_iff, location?_eq_ok_iff, Text.toList_trimmed, Text.trim_trim]

/-- A blank location of the analyzer counts for none. -/
lemma fixed?_of_blank (h : Text.allBlank raw = true) : fixed? primary (some raw) now = fixed? primary none now := by
  have hnone : ((some raw).map Text.trimmed).filter (· != "") = none := by
    simp [Option.filter, Text.trimmed_eq_empty_iff.mpr h]
  unfold fixed?
  rw [hnone]
  rfl

/-- What the resolver gives for locations none of which is blank. -/
lemma fixed?_eq_ok_iff {analyzer : Option String} {s : Snapshot}
    (h : ∀ raw, analyzer = some raw → Text.allBlank raw = false) :
    fixed? primary analyzer now = .ok s ↔
      ∃ p a, location? primary = .ok p ∧ ReadAs location? analyzer a ∧
        s = { primary := some p, analyzer := a, resolvedAt := now } := by
  unfold fixed?
  cases analyzer with
  | none =>
    cases location? primary with
    | error e => simp [bind, Except.bind]
    | ok p => simp [ReadAs, bind, Except.bind, pure, Except.pure, eq_comm]
  | some raw =>
    have hsome : ((some raw).map Text.trimmed).filter (· != "") = some (Text.trimmed raw) := by
      have hne : Text.trimmed raw ≠ "" := fun he => by simp [Text.trimmed_eq_empty_iff.mp he] at h
      simp [Option.filter, hne]
    have htrimmed (url : Url) : location? (Text.trimmed raw) = .ok url ↔ location? raw = .ok url := location?_trimmed
    rw [hsome]
    simp only [ReadAs, ← htrimmed]
    cases location? primary with
    | error e => simp [bind, Except.bind]
    | ok p =>
      cases location? (Text.trimmed raw) with
      | error e => simp [bind, Except.bind, Functor.map, Except.map]
      | ok a => simp [bind, Except.bind, pure, Except.pure, Functor.map, Except.map, eq_comm]

/-- A blank text is no location for validation. -/
lemma baseUrl?_of_blank (h : Text.allBlank raw = true) : Settings.baseUrl? raw = .error (.unreadable .noScheme) := by
  have hnil : Text.trim raw.toList = [] := Text.trim_eq_nil_iff.mpr (List.all_eq_true.mp h)
  unfold Settings.baseUrl?
  rw [hnil]
  rfl

/-- A location is not reported exactly if validation accepts it. -/
lemma urlProblems_eq_nil_iff {field : String} :
    Settings.urlProblems field raw = [] ↔ ∃ url, Settings.baseUrl? raw = .ok url := by
  unfold Settings.urlProblems
  cases Settings.baseUrl? raw with
  | error e => simp
  | ok url => simp

/-- Validation finds nothing wrong with the locations exactly if it can read them as URLs that name backends. -/
lemma staticProblems_eq_nil_iff {s : Settings} :
    s.staticProblems = [] ↔
      ∃ p a, Settings.baseUrl? s.primaryUrl = .ok p ∧ ReadAs Settings.baseUrl? s.analyzerUrl a := by
  rw [Settings.staticProblems, List.append_eq_nil_iff, urlProblems_eq_nil_iff]
  cases s.analyzerUrl with
  | none => simp [ReadAs]
  | some raw =>
    simp only [urlProblems_eq_nil_iff, ReadAs]
    constructor
    · rintro ⟨⟨p, hp⟩, url, hurl⟩
      exact ⟨p, some url, hp, url, hurl, rfl⟩
    · rintro ⟨p, _, hp, url, hurl, _⟩
      exact ⟨⟨p, hp⟩, url, hurl⟩

/-- What validation reads is what the resolver reads, and names a backend. -/
lemma readAs_baseUrl?_iff {analyzer : Option String} {a : Option Url} :
    ReadAs Settings.baseUrl? analyzer a ↔
      ReadAs location? analyzer a ∧ ∀ url, a = some url → url.NamesBackend := by
  cases analyzer with
  | none =>
    constructor
    · rintro rfl
      exact ⟨rfl, nofun⟩
    · rintro ⟨h, _⟩
      exact h
  | some raw =>
    constructor
    · rintro ⟨url, hurl, rfl⟩
      obtain ⟨hread, hnames⟩ := baseUrl?_eq_ok_iff.mp hurl
      refine ⟨⟨url, hread, rfl⟩, ?_⟩
      rintro _ ⟨⟩
      exact hnames
    · rintro ⟨⟨url, hread, rfl⟩, hnames⟩
      exact ⟨url, baseUrl?_eq_ok_iff.mpr ⟨hread, hnames url rfl⟩, rfl⟩

/-- A snapshot names its backends if each URL in it does. -/
lemma namesBackends_iff {p : Url} {a : Option Url} :
    Snapshot.NamesBackends ⟨some p, a, now⟩ ↔ p.NamesBackend ∧ ∀ url, a = some url → url.NamesBackend := by
  constructor
  · intro h
    exact ⟨h .primary p rfl, fun url hurl => h .analyzer url hurl⟩
  · rintro ⟨hp, ha⟩ backend url hurl
    cases backend with
    | primary =>
      cases hurl
      exact hp
    | analyzer => exact ha url hurl

/-- Validation finds nothing wrong with the fixed locations exactly if that of the analyzer is not blank, the resolver
can read them, and their URLs name backends. Then every resolution succeeds with the URLs that validation read, one for
the analyzer exactly if it has a location. A blank location of the analyzer is a problem for validation and none for the
resolver, which takes it for no location. -/
theorem fixed_agreement (s : Settings) (now : Stamp) :
    (s.staticProblems = [] ↔
        (∀ raw, s.analyzerUrl = some raw → Text.allBlank raw = false) ∧
          ∃ snapshot, fixed? s.primaryUrl s.analyzerUrl now = .ok snapshot ∧ snapshot.NamesBackends) ∧
      (s.staticProblems = [] →
        ∃ primary analyzer,
          Settings.baseUrl? s.primaryUrl = .ok primary ∧ ReadAs Settings.baseUrl? s.analyzerUrl analyzer ∧
            fixed? s.primaryUrl s.analyzerUrl now = .ok { primary := some primary, analyzer, resolvedAt := now }) ∧
      ∀ raw, s.analyzerUrl = some raw → Text.allBlank raw = true →
        .baseUrl "analyzer_url" raw (.unreadable .noScheme) ∈ s.staticProblems ∧
          fixed? s.primaryUrl s.analyzerUrl now = fixed? s.primaryUrl none now := by
  have hresolved : s.staticProblems = [] →
      (∀ raw, s.analyzerUrl = some raw → Text.allBlank raw = false) ∧
        ∃ p a, Settings.baseUrl? s.primaryUrl = .ok p ∧ ReadAs Settings.baseUrl? s.analyzerUrl a ∧
          fixed? s.primaryUrl s.analyzerUrl now = .ok ⟨some p, a, now⟩ := by
    intro h
    -- validation reads the analyzer, so it is not blank
    obtain ⟨p, a, hp, ha⟩ := staticProblems_eq_nil_iff.mp h
    have hnonblank : ∀ raw, s.analyzerUrl = some raw → Text.allBlank raw = false := by
      intro raw hraw
      rw [hraw] at ha
      obtain ⟨url, hurl, _⟩ := ha
      by_contra hblank
      rw [baseUrl?_of_blank (by simpa using hblank)] at hurl
      cases hurl
    have hread := (baseUrl?_eq_ok_iff.mp hp).1
    exact ⟨hnonblank, p, a, hp, ha, (fixed?_eq_ok_iff hnonblank).mpr ⟨p, a, hread, (readAs_baseUrl?_iff.mp ha).1, rfl⟩⟩
  refine ⟨⟨?_, ?_⟩, fun h => (hresolved h).2, ?_⟩
  · intro h
    obtain ⟨hnonblank, p, a, hp, ha, hfixed⟩ := hresolved h
    refine ⟨hnonblank, _, hfixed, namesBackends_iff.mpr ⟨?_, ?_⟩⟩
    · exact (baseUrl?_eq_ok_iff.mp hp).2
    · exact (readAs_baseUrl?_iff.mp ha).2
  · rintro ⟨hnonblank, snapshot, hfixed, hnames⟩
    obtain ⟨p, a, hp, ha, rfl⟩ := (fixed?_eq_ok_iff hnonblank).mp hfixed
    obtain ⟨hpnames, hanames⟩ := namesBackends_iff.mp hnames
    exact staticProblems_eq_nil_iff.mpr
      ⟨p, a, baseUrl?_eq_ok_iff.mpr ⟨hp, hpnames⟩, readAs_baseUrl?_iff.mpr ⟨ha, hanames⟩⟩
  · intro raw hraw hblank
    rw [Settings.staticProblems, hraw]
    have hproblem :
        Settings.urlProblems "analyzer_url" raw = [.baseUrl "analyzer_url" raw (.unreadable .noScheme)] := by
      rw [Settings.urlProblems, baseUrl?_of_blank hblank]
    refine ⟨List.mem_append_right _ ?_, fixed?_of_blank hblank⟩
    simp only [hproblem, List.mem_singleton]

/-- Settings whose location of the analyzer is empty. -/
def unset : Settings :=
  { analyzerUrl := some "" }

/-- The resolver finds the primary backend alone, and validation has a problem with the other location. -/
theorem fixed_agreement_unset :
    .baseUrl "analyzer_url" "" (.unreadable .noScheme) ∈ unset.staticProblems ∧
      fixed? unset.primaryUrl unset.analyzerUrl ⟨0, ""⟩ = fixed? unset.primaryUrl none ⟨0, ""⟩ ∧
        (fixed? unset.primaryUrl none ⟨0, ""⟩).isOk = true := by
  obtain ⟨hproblem, hfixed⟩ := (fixed_agreement unset ⟨0, ""⟩).2.2 "" rfl rfl
  exact ⟨hproblem, hfixed, by decide +kernel⟩

end Discovery

end ApiGateway
