import ApiGateway.Proofs.Discovery.Fixed
import ApiGateway.Proofs.Proxy.Authority
import ApiGateway.Proofs.Proxy.Target
import ApiGateway.Route

/-!
# Targets for accepted base URLs

A base URL that validation accepts can fail at a request: validation reads it as web browsers do, and the target that is
made of it is read by the grammar of request targets. `backendUri?_of_baseUrl?` settles when it fails. The target of a
routed request, if it is not too long, is the base URL with the inbound path and query after it, except if the domain
name of the base URL has one of the `strayMarks`; then there is never a target.
-/

namespace ApiGateway

open Http Url

/-! ### Routed requests -/

namespace Route

/-- The path of a request with a backend begins with a slash. -/
lemma head?_of_backend? {path : List Char} (h : (backend? path).isSome = true) : path.head? = some '/' := by
  have hrules : ∀ r ∈ rules, r.pattern.text.head? = some '/' := by decide
  rw [backend?, Option.isSome_map] at h
  obtain ⟨r, hr⟩ := Option.isSome_iff_exists.mp h
  have hmatch := List.find?_some hr
  have hslash := hrules r (List.mem_of_find?_eq_some hr)
  cases hafter : Text.after? r.pattern.text path with
  | none => simp [Pattern.isMatch, hafter] at hmatch
  | some rest =>
    rw [Text.after?_eq_some_iff.mp hafter, List.head?_append, hslash]
    rfl

end Route

namespace Http.Uri

/-- A routed request has a path and a query of legal characters, and the path begins with a slash. -/
lemma exists_pathAndQuery?_of_routed {inbound : Uri} (hread : ∃ text, ofChars? text = .ok inbound)
    (hrouted : (Route.backend? inbound.path).isSome = true) :
    ∃ pq, inbound.pathAndQuery? = some pq ∧ pq.IsLegal ∧ pq.path = inbound.path ∧ pq.query = inbound.query := by
  obtain ⟨text, hread⟩ := hread
  cases inbound with
  | relative pq => exact ⟨pq, rfl, isLegal_of_ofChars? hread rfl, rfl, rfl⟩
  | authority a =>
    have hnone : (Route.backend? []).isSome = false := by decide
    exact absurd (hnone.symm.trans hrouted) Bool.false_ne_true
  | absolute scheme a pq =>
    refine ⟨pq, rfl, isLegal_of_ofChars? hread rfl, ?_, rfl⟩
    have hpath : pq.path.isEmpty = false := by
      cases hempty : pq.path.isEmpty with
      | false => rfl
      | true =>
        have hnone : (Route.backend? ['/']).isSome = false := by decide
        rw [path, if_pos hempty, hnone] at hrouted
        cases hrouted
    rw [path, hpath]
    rfl

end Http.Uri

namespace Proxy

/-- The text that is read as the target of a request. -/
def targetChars (base : Url) (inbound : Uri) : List Char :=
  base.scheme ++ "://".toList ++ Authority.hostPort ((base.host?.map Host.chars).getD []) base.port? ++ basePath base ++
    inboundChars inbound

/-- For a base with a host, the target is what its text is read as. -/
lemma backendUri?_eq {base : Url} {host : Host} (hhost : base.host? = some host) (inbound : Uri) :
    backendUri? base inbound = (Uri.ofChars? (targetChars base inbound)).mapError .invalid := by
  unfold backendUri? targetChars
  simp only [hhost, Option.map_some, Option.getD_some]
  cases Uri.ofChars? _ with
  | error e => rfl
  | ok uri => rfl

/-- What a URL writes in its path as it is may stand in that of a target. -/
lemma isPathChar_of_inPath {c : Char} (h : Url.Percent.inPath c = false) : PathAndQuery.isPathChar c = true := by
  have hcontrol : Url.Percent.isControl c = false := by
    rw [Url.Percent.inPath, Url.Percent.inFragment, Bool.or_eq_false_iff, Bool.or_eq_false_iff] at h
    exact h.1.1
  have hascii : c.toNat < 0x80 := by
    rw [Url.Percent.isControl, Bool.or_eq_false_iff, decide_eq_false_iff_not, decide_eq_false_iff_not] at hcontrol
    omega
  revert h
  exact Text.forall_ascii c hascii (by decide +kernel)

/-- The path of a base URL, without the slashes at its end, is empty or begins with a slash. -/
lemma basePath_cases {base : Url} (hwritten : Path.IsWritten base.path)
    (hslash : base.path = [] ∨ base.path.head? = some '/') :
    Path.IsWritten (basePath base) ∧ (basePath base = [] ∨ (basePath base).head? = some '/') := by
  have hprefix : basePath base <+: base.path := by
    rw [← List.reverse_suffix, basePath, List.reverse_reverse]
    exact List.dropWhile_suffix _
  obtain ⟨rest, hrest⟩ := hprefix
  refine ⟨fun c hc => hwritten c (hrest ▸ List.mem_append_left rest hc), ?_⟩
  cases hpath : basePath base with
  | nil => exact .inl rfl
  | cons c cs =>
    rw [← hrest, hpath] at hslash
    exact .inr (hslash.resolve_left nofun)

/-- A path that begins with a slash begins the text of its target with one. -/
lemma head?_chars {pq : PathAndQuery} (h : pq.path.head? = some '/') : pq.chars.head? = some '/' := by
  obtain ⟨path, query⟩ := pq
  obtain ⟨tail, rfl⟩ := List.head?_eq_some_iff.mp h
  cases query with
  | none => rfl
  | some q => rfl

/-- The path of a base URL and that of a request make up a legal one. -/
lemma isLegal_append {base : Url} (hwritten : Path.IsWritten (basePath base)) {pq : PathAndQuery} (h : pq.IsLegal) :
    (PathAndQuery.mk (basePath base ++ pq.path) pq.query).IsLegal where
  path c hc := by
    obtain hc | hc := List.mem_append.mp hc
    · exact isPathChar_of_inPath (hwritten c hc)
    · exact h.path c hc
  query := h.query

/-- The path and the query of a routed request are added to the path of the base URL as they are. -/
lemma basePath_append_inboundChars (base : Url) {inbound : Uri} {pq : PathAndQuery}
    (hpq : inbound.pathAndQuery? = some pq) (hslash : pq.path.head? = some '/') :
    basePath base ++ inboundChars inbound = (PathAndQuery.mk (basePath base ++ pq.path) pq.query).chars := by
  obtain ⟨path, query⟩ := pq
  obtain ⟨tail, rfl⟩ := List.head?_eq_some_iff.mp hslash
  have hinbound : inboundChars inbound = (PathAndQuery.mk ('/' :: tail) query).chars := by
    rw [inboundChars, hpq]
    cases query with
    | none => rfl
    | some q => rfl
  rw [hinbound]
  cases query with
  | none => rfl
  | some q => exact (List.append_assoc _ _ _).symm

/-- What follows the authority in the target of a routed request is a legal path and query, and begins with a slash. -/
lemma target_of_routed {base : Url} (hwritten : Path.IsWritten base.path)
    (hslash : base.path = [] ∨ base.path.head? = some '/') {inbound : Uri}
    (hread : ∃ text, Uri.ofChars? text = .ok inbound) (hrouted : (Route.backend? inbound.path).isSome = true) :
    PathAndQuery.ofChars? (basePath base ++ inboundChars inbound) =
        .ok ⟨basePath base ++ inbound.path, inbound.query⟩ ∧
      (basePath base ++ inboundChars inbound).head? = some '/' := by
  obtain ⟨hbaseWritten, hbaseSlash⟩ := basePath_cases hwritten hslash
  obtain ⟨pq, hpq, hlegal, hpath, hquery⟩ := Uri.exists_pathAndQuery?_of_routed hread hrouted
  have hpqSlash : pq.path.head? = some '/' := hpath ▸ Route.head?_of_backend? hrouted
  have hpathSlash : (basePath base ++ pq.path).head? = some '/' := by
    obtain h | h := hbaseSlash
    · rwa [h, List.nil_append]
    · rw [List.head?_append, h]
      rfl
  rw [basePath_append_inboundChars base hpq hpqSlash, ← hpath, ← hquery]
  exact ⟨(isLegal_append hbaseWritten hlegal).ofChars?_chars, head?_chars hpathSlash⟩

/-- A base URL that validation accepts was read from a text, with a scheme of the protocol and a host. -/
lemma exists_of_baseUrl? {value : String} {base : Url} (h : Settings.baseUrl? value = .ok base) :
    base.IsRead ∧ (base.scheme = "http".toList ∨ base.scheme = "https".toList) ∧
      ∃ host, base.host? = some host ∧ host.chars ≠ [] := by
  obtain ⟨hlocation, hscheme, hhost⟩ := Discovery.baseUrl?_eq_ok_iff.mp h
  exact ⟨Discovery.isRead_location? hlocation, by simpa [Settings.isHttp] using hscheme, hhost⟩

/-- The target for an accepted base URL and a routed request, if it is not too long: the path and the query of the
request are added to the base URL, whose own query and user are left out. If the domain name has a mark that no
authority may have, there is no target for any request. -/
theorem backendUri?_of_baseUrl? {value : String} {base : Url} {inbound : Uri}
    (hbase : Settings.baseUrl? value = .ok base) (hread : ∃ text, Uri.ofChars? text = .ok inbound)
    (hrouted : (Route.backend? inbound.path).isSome = true)
    (hlength : Uri.octetCount (targetChars base inbound) ≤ Uri.lengthLimit) :
    ∃ host, base.host? = some host ∧
      backendUri? base inbound =
        if host.chars.any strayMarks.contains then .error (.invalid .invalidCharacter)
        else .ok (.absolute base.scheme (Authority.hostPort host.chars base.port?)
          ⟨basePath base ++ inbound.path, inbound.query⟩) := by
  obtain ⟨hurl, hscheme, host, hhost, hne⟩ := exists_of_baseUrl? hbase
  have hweb : SchemeKind.ofScheme base.scheme = .web := by
    obtain h | h := hscheme
    · rw [h]
      rfl
    · rw [h]
      rfl
  obtain ⟨⟨host', hhost', hlegal⟩, hwritten, hslash⟩ := hurl.web hweb
  obtain rfl : host = host' := Option.some.inj (hhost.symm.trans hhost')
  obtain ⟨hpath, hpathSlash⟩ := target_of_routed hwritten hslash hread hrouted
  have htext : targetChars base inbound = base.scheme ++ "://".toList ++
      (Authority.hostPort host.chars base.port? ++ (basePath base ++ inboundChars inbound)) := by
    simp only [targetChars, hhost, Option.map_some, Option.getD_some, List.append_assoc]
  have hspan := spanAuthority_hostPort hlegal hne base.port? hpathSlash
  rw [htext] at hlength
  refine ⟨host, hhost, ?_⟩
  -- the scheme is one of the two that the grammar of targets knows, so its authority decides
  rw [backendUri?_eq hhost, htext, Uri.ofChars?_of_scheme hscheme hlength, hspan]
  split
  · rfl
  · have hauthority : (Authority.hostPort host.chars base.port?).isEmpty = false := by
      rw [hostPort_eq_append]
      simpa using fun h => absurd h hne
    simp only [pure, Except.pure, bind, Except.bind, hauthority, hpath, Bool.false_eq_true, if_false, Except.mapError]

/-- A base URL at port 8000, with a slash for a path. -/
def urlAt (name : List Char) : Url where
  scheme := "http".toList
  authority := some { host := some (.domain name), port := some 8000 }
  path := ['/']
  query := none
  fragment := none

/-- Validation accepts a location that a template has left open, at which no request has a target. -/
theorem backendUri?_of_baseUrl?_template :
    Settings.baseUrl? "http://$\x7bHOST\x7d:8000" = .ok (urlAt "$\x7bhost\x7d".toList) ∧
      backendUri? (urlAt "$\x7bhost\x7d".toList) (.relative ⟨"/api".toList, none⟩) =
        .error (.invalid .invalidCharacter) ∧
      backendUri? (urlAt "localhost".toList) (.relative ⟨"/api".toList, none⟩) =
        .ok (.absolute "http".toList "localhost:8000".toList ⟨"/api".toList, none⟩) := by
  have hread : ∃ text, Uri.ofChars? text = .ok (.relative ⟨"/api".toList, none⟩) := ⟨"/api".toList, by decide +kernel⟩
  have htemplate : Settings.baseUrl? "http://$\x7bHOST\x7d:8000" = .ok (urlAt "$\x7bhost\x7d".toList) := by
    decide +kernel
  have hlocal : Settings.baseUrl? "http://localhost:8000" = .ok (urlAt "localhost".toList) := by decide +kernel
  refine ⟨htemplate, ?_, ?_⟩
  · obtain ⟨host, hhost, htarget⟩ := backendUri?_of_baseUrl? htemplate hread (by decide +kernel) (by decide +kernel)
    rw [htarget, ← Option.some.inj hhost]
    rfl
  · obtain ⟨host, hhost, htarget⟩ := backendUri?_of_baseUrl? hlocal hread (by decide +kernel) (by decide +kernel)
    rw [htarget, ← Option.some.inj hhost]
    rfl

end Proxy

end ApiGateway
