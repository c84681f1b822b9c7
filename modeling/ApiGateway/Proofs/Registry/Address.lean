import ApiGateway.Proofs.Proxy.Authority
import ApiGateway.Proofs.Proxy.Target
import ApiGateway.Proofs.Registry.Optional
import ApiGateway.Proofs.Url.Plain
import ApiGateway.Settings.Validation

/-!
# Where the URL of a service points

The URL of a service is read from a text that is made of its name, its namespace, the domain of the cluster and a port.
If all characters of the domain are characters of domain names, a URL that comes of this text points at the service and
the port (`PointsAt`). Settings may have any domain that is not blank, and with any other character in it the host, the
port or the path of the URL is another one: `serviceUrl?_pointsAt_iff`.
-/

namespace ApiGateway.Registry

open Url Url.Idna

/-! ### Labels -/

/-- A character of a label. -/
def isLabelChar (c : Char) : Bool :=
  c.isLower || c.isDigit || c == '-'

/-- A label of a domain name, as names of services and namespaces are. -/
structure IsLabel (cs : List Char) : Prop where
  length_pos : 0 < cs.length
  length_le : cs.length ≤ 63
  chars : ∀ c ∈ cs, isLabelChar c = true
  head : cs.head? ≠ some '-'
  last : cs.getLast? ≠ some '-'

/-- Characters of labels are characters of names. -/
lemma isNameChar_of_isLabelChar {c : Char} (h : isLabelChar c = true) : isNameChar c = true := by
  rw [isLabelChar, Bool.or_eq_true, Bool.or_eq_true, beq_iff_eq] at h
  obtain (hlower | hdigit) | rfl := h
  · exact isNameChar_of_isAlphanum (by rw [Char.isAlphanum, Char.isAlpha, hlower, Bool.or_true, Bool.true_or])
  · exact isNameChar_of_isAlphanum (by rw [Char.isAlphanum, hdigit, Bool.or_true])
  · rfl

/-- A label has characters of names only. -/
lemma IsLabel.isNameChar {cs : List Char} (h : IsLabel cs) : ∀ c ∈ cs, isNameChar c = true :=
  fun c hc => isNameChar_of_isLabelChar (h.chars c hc)

/-! ### Names of services -/

/-- The name of a service in the domain of the cluster, without points around the domain. -/
def hostText (name home domain : String) : List Char :=
  name.toList ++ '.' :: home.toList ++ ".svc.".toList ++ Text.strip (· == '.') domain.toList

/-- A URL points at a port of a host: these are its host, up to the case of letters, and its port, where 80 need not be
written, and it has nothing else. -/
structure PointsAt (url : Url) (host : List Char) (port : Int) : Prop where
  scheme : url.scheme = "http".toList
  host : ∃ h, url.host? = some h ∧ Text.lowerAscii h.chars = Text.lowerAscii host
  port : ((url.port?.getD 80).toNat : Int) = port
  path : url.path = ['/']
  query : url.query = none
  fragment : url.fragment = none
  user : ∃ a, url.authority = some a ∧ a.username = [] ∧ a.password = none

/-- The text of a service is the scheme, the host and the port. -/
lemma urlText_eq (name home domain : String) (port : Int) :
    urlText name home domain port =
      "http:".toList ++ '/' :: '/' :: (hostText name home domain ++ ':' :: (Number.intText port).toList) := by
  have hlead : "http://".toList = "http:".toList ++ ['/', '/'] := rfl
  unfold urlText hostText
  simp only [hlead, List.append_assoc, List.cons_append, List.nil_append]

/-- Whatever the domain is, the label before it is one of the name. -/
lemma svc_mem_fields (name home domain : String) :
    "svc".toList ∈ Text.fields '.' (Text.lowerAscii (hostText name home domain)) := by
  have hsplit : Text.lowerAscii (hostText name home domain) =
      Text.lowerAscii (name.toList ++ '.' :: home.toList) ++
        '.' :: ("svc".toList ++ '.' :: Text.lowerAscii (Text.strip (· == '.') domain.toList)) := by
    simp [Text.lowerAscii, hostText]
  rw [hsplit, Text.fields_append, Text.fields_append]
  exact List.mem_append_right _ (List.mem_append_left _ (by decide))

section

variable {name home domain : String} (hname : IsLabel name.toList) (hhome : IsLabel home.toList)

include hname

/-- A host begins with the name of the service, so it is not empty. -/
lemma hostText_ne_nil (home domain : String) : hostText name home domain ≠ [] := by
  have hne : name.toList ≠ [] := List.ne_nil_of_length_pos hname.length_pos
  simp [hostText, hne]

include hhome

/-- Points apart, only the domain brings in characters that are not those of names. -/
lemma isNameChar_hostText_iff :
    (∀ c ∈ hostText name home domain, isNameChar c = true) ↔ ∀ c ∈ domain.toList, isNameChar c = true := by
  simp only [hostText, List.forall_mem_append, List.forall_mem_cons]
  constructor
  · rintro ⟨_, hstrip⟩ c hc
    cases hpoint : c == '.' with
    | true =>
      rw [beq_iff_eq.mp hpoint]
      rfl
    | false => exact hstrip c (Text.mem_strip_of_not hc hpoint)
  · intro hdomain
    exact ⟨⟨⟨hname.isNameChar, rfl, hhome.isNameChar⟩, by simp [isNameChar, isAscii, isForbidden]⟩,
      fun c hc => hdomain c (Text.mem_of_mem_strip hc)⟩

/-- A URL that comes of a name with characters of names only points at it. -/
lemma pointsAt_of_urlText {port : Int} {url : Url} (hdomain : ∀ c ∈ domain.toList, isNameChar c = true)
    (h : ofChars? (urlText name home domain port) = .ok url) : PointsAt url (hostText name home domain) port := by
  have hchars : ∀ c ∈ hostText name home domain, isNameChar c = true :=
    (isNameChar_hostText_iff hname hhome).mpr hdomain
  rw [urlText_eq] at h
  obtain ⟨host, number, rest, hhost, hnumber, rfl⟩ :=
    exists_of_ofChars?_host_port hchars isNameChar_of_mem_intText (hostText_ne_nil hname home domain) h
  obtain rfl := Host.eq_of_ofSpecial? hchars (svc_mem_fields name home domain) (by decide) (by decide) hhost
  exact {
    scheme := rfl
    host := ⟨_, rfl, Text.lowerAscii_lowerAscii _⟩
    port := eq_of_spanPort_intText hnumber
    path := rfl
    query := rfl
    fragment := rfl
    user := ⟨_, rfl, rfl, rfl⟩ }

/-- A URL of the web that points at a service has a domain with characters of names only. -/
lemma isNameChar_of_pointsAt {port : Int} {url : Url} (hread : url.IsRead)
    (h : PointsAt url (hostText name home domain) port) : ∀ c ∈ domain.toList, isNameChar c = true := by
  apply (isNameChar_hostText_iff hname hhome).mp
  obtain ⟨host, hhost, hsame⟩ := h.host
  obtain ⟨⟨host', hhost', hlegal⟩, _⟩ := hread.web (SchemeKind.ofScheme_eq_web (.inl h.scheme))
  cases hhost.symm.trans hhost'
  cases host with
  | domain text => exact isNameChar_of_lowerAscii_eq hsame hlegal
  | ipv4 ip =>
    apply isNameChar_of_lowerAscii_eq hsame
    intro c hc
    obtain halnum | rfl := Ipv4.mem_chars c hc
    · exact isNameChar_of_isAlphanum halnum
    · rfl
  | ipv6 ip =>
    -- a name does not begin with a bracket
    obtain ⟨c, cs, hcs⟩ := List.exists_cons_of_ne_nil (List.ne_nil_of_length_pos hname.length_pos)
    have hc : isNameChar c = true := hname.isNameChar c (hcs ▸ List.mem_cons_self)
    rw [hostText, hcs] at hsame
    have hfirst : '[' = c.toLower := (List.cons.inj hsame).1
    rw [← isNameChar_toLower, ← hfirst] at hc
    cases hc

end

/-- The URL of a service with a name and a namespace that are labels points at the service and its chosen port exactly
if all characters of the domain are characters of domain names. -/
theorem serviceUrl?_pointsAt_iff {s : Service} {name home domain : String} {backend : Backend} {url : Url}
    (hname : s.name = some name) (hlabel : IsLabel name.toList) (hhome : IsLabel (s.home.getD home).toList)
    (h : serviceUrl? s home domain backend = .ok url) :
    ∃ port, pickPort s.ports = some port ∧
      (PointsAt url (hostText name (s.home.getD home) domain) port.number ↔
        ∀ c ∈ domain.toList, isNameChar c = true) := by
  obtain ⟨port, hport, hread⟩ := serviceUrl?_eq_ok_iff.mp h
  rw [hname, Option.getD_some] at hread
  refine ⟨port, hport, ?_, ?_⟩
  · exact isNameChar_of_pointsAt hlabel hhome ⟨_, hread⟩
  · intro hdomain
    exact pointsAt_of_urlText hlabel hhome hdomain hread

/-- The URL of this service in a domain with a slash at its end. -/
def strayUrl : Url where
  scheme := "http".toList
  authority := some { host := some (.domain "metrics-api.default.svc.cluster.local".toList) }
  path := "/:8000".toList
  query := none
  fragment := none

/-- Validation accepts a domain with a slash at its end, which makes the port a part of the path. -/
theorem serviceUrl?_pointsAt_iff_stray :
    ({ discoveryEnabled := true, clusterDomain := "cluster.local/" } : Settings).validate
        (Log.Filter.reader .unicode) = .ok () ∧
      serviceUrl? metricsService "default" "cluster.local/" .primary = .ok strayUrl ∧
      ¬ PointsAt strayUrl (hostText "metrics-api" "default" "cluster.local/") 8000 ∧
      serviceUrl? metricsService "default" ".Cluster.Local." .primary = .ok metricsUrl ∧
      PointsAt metricsUrl (hostText "metrics-api" "default" ".Cluster.Local.") 8000 := by
  have hname : IsLabel "metrics-api".toList :=
    ⟨by decide, by decide, List.all_eq_true.mp (by decide), by decide, by decide⟩
  have hhome : IsLabel "default".toList :=
    ⟨by decide, by decide, List.all_eq_true.mp (by decide), by decide, by decide⟩
  have hstray : serviceUrl? metricsService "default" "cluster.local/" .primary = .ok strayUrl := by decide +kernel
  have hplain : serviceUrl? metricsService "default" ".Cluster.Local." .primary = .ok metricsUrl := by decide +kernel
  obtain ⟨_, hport, hfails⟩ := @serviceUrl?_pointsAt_iff metricsService _ "default" _ _ _ rfl hname hhome hstray
  cases hport
  obtain ⟨_, hport, hholds⟩ := @serviceUrl?_pointsAt_iff metricsService _ "default" _ _ _ rfl hname hhome hplain
  cases hport
  refine ⟨by decide +kernel, hstray, ?_, hplain, ?_⟩
  · intro hpoints
    have hslash : isNameChar '/' = true := hfails.mp hpoints '/' (by decide)
    exact absurd hslash (by decide)
  · exact hholds.mpr (List.all_eq_true.mp (by decide +kernel))

end ApiGateway.Registry
