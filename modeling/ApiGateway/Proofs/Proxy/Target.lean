import ApiGateway.Discovery.Fixed
import ApiGateway.Http.Header
import ApiGateway.Proofs.Http.FieldText
import ApiGateway.Proofs.Http.Uri
import ApiGateway.Proofs.Url.Read
import ApiGateway.Proxy.BackendUri
import ApiGateway.Registry.Resolver

/-!
# Targets of requests to backends

The base URL of a backend was read from a text, so its scheme begins with a letter. The target that is made of it is
then neither a path alone nor a star: it has an authority, whose characters a field can carry as they are
(`authority?_of_backendUri?`). The snapshots of both resolvers hold such URLs only (`isRead_fixed?`,
`isRead_resolve?`).
-/

namespace ApiGateway

open Http

/-! ### Snapshots of URLs that were read -/

/-- A snapshot whose URLs were read from texts. -/
def Snapshot.IsRead (s : Snapshot) : Prop :=
  ∀ backend base, s.url? backend = some base → base.IsRead

namespace Discovery

/-- A location was read from a text. -/
lemma isRead_location? {raw : String} {u : Url} (h : location? raw = .ok u) : u.IsRead := by
  unfold location? at h
  cases hread : Url.ofChars? (Text.trim raw.toList) with
  | error e =>
    rw [hread] at h
    cases h
  | ok url =>
    rw [hread] at h
    cases h
    exact ⟨_, hread⟩

/-- Every URL of a snapshot of fixed locations was read from a text. -/
lemma isRead_fixed? {primary : String} {analyzer : Option String} {resolvedAt : Stamp} {s : Snapshot}
    (h : fixed? primary analyzer resolvedAt = .ok s) : s.IsRead := by
  unfold fixed? at h
  obtain ⟨url, hprimary, h⟩ := exists_of_bind_eq_ok h
  have hurls : s.primary = some url ∧ ∀ base, s.analyzer = some base → ∃ raw, location? raw = .ok base := by
    simp only at h
    split at h
    · cases h
      exact ⟨rfl, nofun⟩
    · rename_i raw _
      cases hraw : location? raw with
      | error e =>
        rw [hraw] at h
        cases h
      | ok other =>
        rw [hraw] at h
        cases h
        refine ⟨rfl, ?_⟩
        rintro base ⟨⟩
        exact ⟨raw, hraw⟩
  intro backend base hbase
  cases backend with
  | primary =>
    cases hurls.1.symm.trans hbase
    exact isRead_location? hprimary
  | analyzer =>
    obtain ⟨raw, hraw⟩ := hurls.2 base hbase
    exact isRead_location? hraw

end Discovery

namespace Registry

/-- The URL of a service was read from a text. -/
lemma isRead_serviceUrl? {s : Service} {home domain : String} {backend : Backend} {u : Url}
    (h : serviceUrl? s home domain backend = .ok u) : u.IsRead := by
  unfold serviceUrl? at h
  simp only at h
  split at h
  · cases h
  · split at h
    · rename_i hread
      cases h
      exact ⟨_, hread⟩
    · cases h

/-- The URL of a backend that was looked up was read from a text. -/
lemma isRead_resolveBackend? {list : Listing} {settings : Settings} {backend : Backend} {selector : String}
    {required : Bool} {u : Url} (h : resolveBackend? list settings backend selector required = .ok (some u)) :
    u.IsRead := by
  unfold resolveBackend? at h
  obtain ⟨services, _, h⟩ := exists_of_bind_eq_ok h
  unfold select? at h
  split at h
  · split at h
    · cases h
    · cases h
  · split at h
    · rename_i hurl
      cases h
      exact isRead_serviceUrl? hurl
    · split at h
      · cases h
      · cases h

/-- Every URL of a snapshot that was looked up was read from a text. -/
lemma isRead_resolve? {list : Listing} {settings : Settings} {now : Stamp} {s : Snapshot}
    (h : resolve? list settings now = .ok s) : s.IsRead := by
  unfold resolve? at h
  obtain ⟨primary, hprimary, h⟩ := exists_of_bind_eq_ok h
  obtain ⟨analyzer, hanalyzer, h⟩ := exists_of_bind_eq_ok h
  cases h
  intro backend base hbase
  cases backend with
  | primary =>
    cases hbase
    exact isRead_resolveBackend? hprimary
  | analyzer =>
    cases hbase
    exact isRead_resolveBackend? hanalyzer

end Registry

/-! ### Authorities of targets -/

namespace Http

/-- A field carries visible characters as they are. -/
lemma text?_ofAscii {cs : List Char} (h : ∀ c ∈ cs, isVisible c = true) :
    (FieldValue.ofAscii cs).text? = some cs := by
  apply FieldValue.text?_ofAscii
  intro c hc
  have hcode := h c hc
  rw [isVisible, Bool.and_eq_true, decide_eq_true_eq, decide_eq_true_eq] at hcode
  rw [FieldValue.isTextChar, Bool.or_eq_true, Bool.and_eq_true, decide_eq_true_eq, decide_eq_true_eq]
  exact .inl ⟨Nat.le_of_lt hcode.1, hcode.2⟩

end Http

namespace Proxy

/-- The target for a base URL that was read has an authority, which a field carries as it is. -/
lemma authority?_of_backendUri? {base : Url} (hread : base.IsRead) {inbound target : Uri}
    (h : backendUri? base inbound = .ok target) :
    ∃ authority, target.authority? = some authority ∧ (FieldValue.ofAscii authority).text? = some authority := by
  obtain ⟨first, tail, hscheme, hfirst⟩ := hread.scheme
  unfold backendUri? at h
  split at h
  · cases h
  · simp only [hscheme, List.cons_append] at h
    split at h
    · rename_i uri huri
      cases h
      obtain ⟨authority, hauthority, hvisible⟩ := Uri.authority?_of_ofChars? hfirst huri
      exact ⟨authority, hauthority, text?_ofAscii hvisible⟩
    · cases h

end Proxy

end ApiGateway
