import ApiGateway.Proofs.Http.Uri
import ApiGateway.Proofs.Url.Domain
import ApiGateway.Url.Parser

/-!
# URLs that were read

The scheme of a URL that was read from a text begins with a letter (`IsRead.scheme`). A URL of the web has a host, whose
name is one of the characters of names (`Host.IsLegal`), and a path that begins with a slash and needs no more
percent-encoding (`Path.IsWritten`): `IsRead.web`.
-/

namespace ApiGateway.Url

/-- A URL that was read from a text. -/
def IsRead (u : Url) : Prop :=
  ∃ text, ofChars? text = .ok u

/-- A scheme that is read begins with a letter. -/
lemma spanScheme?_head {cs scheme rest : List Char} (h : spanScheme? cs = some (scheme, rest)) :
    ∃ first tail, scheme = first :: tail ∧ first.isAlpha = true := by
  unfold spanScheme? at h
  cases cs with
  | nil => cases h
  | cons c cs =>
    simp only at h
    split at h
    · rename_i halpha
      have hscheme : isSchemeChar c = true := by simp [isSchemeChar, Char.isAlphanum, halpha]
      rw [List.span_eq_takeWhile_dropWhile, List.takeWhile_cons_of_pos hscheme] at h
      split at h
      · rename_i heq
        rw [Prod.mk.injEq] at heq
        rw [← heq.1] at h
        cases h
        exact ⟨_, _, rfl, (Char.isAlpha_toLower_eq_isAlpha c).trans halpha⟩
      · cases h
    · cases h

/-- What the reader makes of a text: its scheme is the one that the text begins with, and a URL of the web has an
authority and an absolute path. -/
lemma exists_of_ofChars? {cs : List Char} {u : Url} (h : ofChars? cs = .ok u) :
    (∃ text rest, spanScheme? text = some (u.scheme, rest)) ∧
      (SchemeKind.ofScheme u.scheme = .web →
        ∃ text more, webParts u.scheme text more = .ok (u.authority, u.path)) := by
  unfold ofChars? at h
  simp only at h
  split at h
  · cases h
  · rename_i scheme rest hscheme
    split at h
    · rename_i hkind
      obtain ⟨⟨authority, path⟩, hparts, h⟩ := exists_of_bind_eq_ok h
      cases h
      exact ⟨⟨_, _, hscheme⟩, fun _ => ⟨_, _, hparts⟩⟩
    · rename_i hkind
      obtain ⟨parts, _, h⟩ := exists_of_bind_eq_ok h
      cases h
      exact ⟨⟨_, _, hscheme⟩, fun hweb => absurd (hkind.symm.trans hweb) (by decide)⟩
    · rename_i hkind
      obtain ⟨parts, _, h⟩ := exists_of_bind_eq_ok h
      cases h
      exact ⟨⟨_, _, hscheme⟩, fun hweb => absurd (hkind.symm.trans hweb) (by decide)⟩

/-- The scheme of a URL that was read begins with a letter. -/
lemma IsRead.scheme {u : Url} (h : u.IsRead) : ∃ first tail, u.scheme = first :: tail ∧ first.isAlpha = true := by
  obtain ⟨text, h⟩ := h
  obtain ⟨⟨_, _, hscheme⟩, _⟩ := exists_of_ofChars? h
  exact spanScheme?_head hscheme

/-! ### Hosts -/

namespace Host

/-- The name of a host has characters of names only; an address has no name. -/
def IsLegal : Host → Prop
  | .domain name => ∀ c ∈ name, Idna.isNameChar c = true
  | .ipv4 _ => True
  | .ipv6 _ => True

/-- What stands in brackets is an address. -/
lemma isLegal_of_bracketed? {text : List Char} {host : Host} (h : bracketed? text = .ok host) : host.IsLegal := by
  unfold bracketed? at h
  split at h
  · split at h
    · cases h
      exact trivial
    · cases h
  · cases h

/-- The name of a web host that was read has characters of names only. -/
lemma isLegal_of_ofSpecial? {text : List Char} {host : Host} (h : ofSpecial? text = .ok host) : host.IsLegal := by
  unfold ofSpecial? at h
  split at h
  · exact isLegal_of_bracketed? h
  · split at h
    · cases h
    · rename_i name hname
      obtain ⟨decoded, _, hname⟩ := Option.bind_eq_some_iff.mp hname
      split at h
      · cases h
      · split at h
        · split at h
          · cases h
            exact trivial
          · cases h
        · cases h
          exact Idna.isNameChar_of_toAscii? hname

end Host

/-- A URL of the web has a host. -/
lemma exists_of_hostOf?_web {cs : List Char} {host? : Option Host} (h : hostOf? .web cs = .ok host?) :
    ∃ host, host? = some host ∧ Host.ofSpecial? cs = .ok host := by
  unfold hostOf? at h
  simp only at h
  split at h
  · cases h
  · cases hhost : Host.ofSpecial? cs with
    | error e =>
      rw [hhost] at h
      cases h
    | ok host =>
      rw [hhost] at h
      cases h
      exact ⟨host, rfl, rfl⟩

/-- The host of a URL of the web is legal. -/
lemma exists_of_authority?_web {scheme cs : List Char} {more : Bool} {a : Authority} {rest : List Char}
    (h : authority? .web scheme cs more = .ok (a, rest)) : ∃ host, a.host = some host ∧ host.IsLegal := by
  unfold authority? at h
  simp only at h
  split at h
  · cases h
  · obtain ⟨host?, hhost, h⟩ := exists_of_bind_eq_ok h
    obtain ⟨host, rfl, hread⟩ := exists_of_hostOf?_web hhost
    split at h
    · cases h
    · obtain ⟨port, _, h⟩ := exists_of_bind_eq_ok h
      split at h
      · cases h
      · cases h
        exact ⟨host, rfl, Host.isLegal_of_ofSpecial? hread⟩

/-! ### Paths -/

/-- What a character is encoded as needs no encoding in a path. -/
lemma Percent.inPath_of_mem_octet {o : UInt8} {c : Char} (h : c ∈ Percent.octet o) : Percent.inPath c = false := by
  have hdigit : ∀ d < 16, Percent.inPath (Nat.digitChar d).toUpper = false := by decide
  have hhigh : o.toNat / 16 < 16 := by
    have := o.toNat_lt
    omega
  simp only [Percent.octet, List.mem_cons, List.not_mem_nil, or_false] at h
  obtain rfl | rfl | rfl := h
  · rfl
  · exact hdigit _ hhigh
  · exact hdigit _ (Nat.mod_lt _ (by decide))

/-- What a segment is encoded as needs no encoding in a path. -/
lemma Percent.inPath_of_mem_encode {cs : List Char} {c : Char} (h : c ∈ Percent.encode Percent.inPath cs) :
    Percent.inPath c = false := by
  obtain ⟨d, _, h⟩ := List.mem_flatMap.mp h
  split at h
  · obtain ⟨o, _, h⟩ := List.mem_flatMap.mp h
    exact Percent.inPath_of_mem_octet h
  · rename_i hd
    rw [List.mem_singleton.mp h]
    simpa using hd

namespace Path

/-- Holds for segments of characters that a path writes as they are. -/
def IsWritten (segment : List Char) : Prop :=
  ∀ c ∈ segment, Percent.inPath c = false

/-- An encoded segment is one that a path writes as it is. -/
lemma isWritten_encode (segment : List Char) : IsWritten (Percent.encode Percent.inPath segment) :=
  fun _ hc => Percent.inPath_of_mem_encode hc

/-- Resolving dots leaves written segments written. -/
lemma isWritten_of_mem_resolve {done segments : List (List Char)} (hdone : ∀ s ∈ done, IsWritten s) :
    ∀ s ∈ resolve done segments, IsWritten s := by
  have hnil : IsWritten [] := nofun
  have htail {done : List (List Char)} (hdone : ∀ s ∈ done, IsWritten s) : ∀ s ∈ done.tail, IsWritten s :=
    fun s hs => hdone s (List.mem_of_mem_tail hs)
  have hreverse {done : List (List Char)} (hdone : ∀ s ∈ done, IsWritten s) : ∀ s ∈ done.reverse, IsWritten s :=
    fun s hs => hdone s (List.mem_reverse.mp hs)
  fun_induction resolve done segments with
  | case1 done => exact hreverse hdone
  | case2 done s hdouble => exact hreverse (List.forall_mem_cons.mpr ⟨hnil, htail hdone⟩)
  | case3 done s hdouble hsingle => exact hreverse (List.forall_mem_cons.mpr ⟨hnil, hdone⟩)
  | case4 done s hdouble hsingle => exact hreverse (List.forall_mem_cons.mpr ⟨isWritten_encode s, hdone⟩)
  | case5 done s rest hrest hdouble ih => exact ih (htail hdone)
  | case6 done s rest hrest hdouble hsingle ih => exact ih hdone
  | case7 done s rest hrest hdouble hsingle ih => exact ih (List.forall_mem_cons.mpr ⟨isWritten_encode s, hdone⟩)

/-- A path that is made of segments begins with a slash, unless there are none. -/
lemma head?_ofSegments (segments : List (List Char)) :
    ofSegments segments = [] ∨ (ofSegments segments).head? = some '/' := by
  cases segments with
  | nil => exact .inl rfl
  | cons s segments => exact .inr rfl

/-- A path of written segments is written. -/
lemma isWritten_ofSegments {segments : List (List Char)} (h : ∀ s ∈ segments, IsWritten s) :
    IsWritten (ofSegments segments) := by
  intro c hc
  obtain ⟨s, hs, hc⟩ := List.mem_flatMap.mp hc
  obtain rfl | hc := List.mem_cons.mp hc
  · rfl
  · exact h s hs c hc

/-- An absolute path has characters only that a path writes as they are, and begins with a slash if it is not empty. -/
lemma isWritten_absolute (text : List Char) :
    IsWritten (absolute text) ∧ (absolute text = [] ∨ (absolute text).head? = some '/') := by
  have hnone : ∀ s ∈ ([] : List (List Char)), IsWritten s := nofun
  unfold absolute
  split
  · exact ⟨isWritten_ofSegments (isWritten_of_mem_resolve hnone), head?_ofSegments _⟩
  · exact ⟨isWritten_ofSegments (isWritten_of_mem_resolve hnone), head?_ofSegments _⟩

end Path

/-! ### URLs of the web -/

/-- The two schemes of the web are of the web. -/
lemma SchemeKind.ofScheme_eq_web {scheme : List Char} (h : scheme = "http".toList ∨ scheme = "https".toList) :
    ofScheme scheme = .web := by
  obtain rfl | rfl := h
  · rfl
  · rfl

/-- A URL of the web has a host, and a path of characters that a path writes as they are; the path begins with a slash
if it is not empty. -/
lemma IsRead.web {u : Url} (h : u.IsRead) (hkind : SchemeKind.ofScheme u.scheme = .web) :
    (∃ host, u.host? = some host ∧ host.IsLegal) ∧ Path.IsWritten u.path ∧ (u.path = [] ∨ u.path.head? = some '/') := by
  obtain ⟨cs, h⟩ := h
  obtain ⟨_, hparts⟩ := exists_of_ofChars? h
  obtain ⟨text, more, hparts⟩ := hparts hkind
  unfold webParts at hparts
  obtain ⟨⟨a, rest⟩, hauthority, hparts⟩ := exists_of_bind_eq_ok hparts
  obtain ⟨host, hhost, hlegal⟩ := exists_of_authority?_web hauthority
  have hboth := Except.ok.inj hparts
  rw [Prod.mk.injEq] at hboth
  refine ⟨⟨host, ?_, hlegal⟩, ?_⟩
  · rw [host?, ← hboth.1, Option.bind_some, hhost]
  · rw [← hboth.2]
    exact Path.isWritten_absolute _

end ApiGateway.Url
