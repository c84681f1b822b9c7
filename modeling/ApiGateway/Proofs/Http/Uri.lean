import ApiGateway.Http.Uri
import ApiGateway.Proofs.Text.Characters

/-!
# Reading request targets

What is known of a target that was read: its path and its query have only characters that may stand there
(`isLegal_of_ofChars?`), and its authority has visible characters only (`authority?_of_ofChars?`). The other way round,
a text that is put together from a scheme of the protocol, an authority, and a legal path and query is read as these
(`ofChars?_of_scheme`), if the authority passes its scan.
-/

namespace ApiGateway

/-- A computation that goes well does so step by step. -/
lemma exists_of_bind_eq_ok {ε α β : Type} {x : Except ε α} {f : α → Except ε β} {b : β}
    (h : x >>= f = .ok b) : ∃ a, x = .ok a ∧ f a = .ok b := by
  cases x with
  | error e => cases h
  | ok a => exact ⟨a, rfl, h⟩

/-- A computation goes well exactly if each of its steps does. -/
lemma bind_eq_ok_iff {ε α β : Type} {x : Except ε α} {f : α → Except ε β} {b : β} :
    x >>= f = .ok b ↔ ∃ a, x = .ok a ∧ f a = .ok b := by
  constructor
  · exact exists_of_bind_eq_ok
  · rintro ⟨a, rfl, h⟩
    exact h

namespace Http

/-- Holds for the ASCII characters that leave a mark. -/
def isVisible (c : Char) : Bool :=
  0x20 < c.toNat && c.toNat < 0x7f

namespace PathAndQuery

/-- The path and the query have only characters that may stand there. -/
structure IsLegal (pq : PathAndQuery) : Prop where
  path : ∀ c ∈ pq.path, isPathChar c = true
  query : ∀ q, pq.query = some q → ∀ c ∈ q, isQueryChar c = true

/-- A path and query that were read have only characters that may stand there. -/
lemma isLegal_of_ofChars? {cs : List Char} {pq : PathAndQuery} (h : ofChars? cs = .ok pq) : pq.IsLegal := by
  have hpath : ∀ c ∈ cs.takeWhile isPathChar, isPathChar c = true := fun c hc => List.mem_takeWhile_imp hc
  unfold ofChars? at h
  simp only [List.span_eq_takeWhile_dropWhile] at h
  split at h
  · cases h
    exact ⟨hpath, nofun⟩
  · cases h
    exact ⟨hpath, nofun⟩
  · rename_i rest _
    have hquery : ∀ c ∈ rest.takeWhile isQueryChar, isQueryChar c = true := fun c hc => List.mem_takeWhile_imp hc
    split at h
    · cases h
      exact ⟨hpath, by rintro q ⟨⟩; exact hquery⟩
    · cases h
      exact ⟨hpath, by rintro q ⟨⟩; exact hquery⟩
    · cases h
  · cases h

/-- What is legal is read as it is written. -/
lemma IsLegal.ofChars?_chars {pq : PathAndQuery} (h : pq.IsLegal) : ofChars? pq.chars = .ok pq := by
  obtain ⟨path, query⟩ := pq
  unfold ofChars? chars
  cases query with
  | none => simp only [Text.span_of_all h.path]
  | some q =>
    have hmark : isPathChar '?' = false := by decide
    simp only [Text.span_append_cons h.path hmark, Text.span_of_all (h.query q rfl)]

end PathAndQuery

namespace Uri

/-! #### What was read -/

/-- The characters of an authority leave a mark. -/
lemma isVisible_of_isAuthorityChar {c : Char} (h : isAuthorityChar c = true) : isVisible c = true := by
  unfold isAuthorityChar at h
  rw [Bool.or_eq_true] at h
  obtain halnum | hmark := h
  · have hcode := Text.toNat_of_isAlphanum halnum
    unfold isVisible
    rw [Bool.and_eq_true, decide_eq_true_eq, decide_eq_true_eq]
    omega
  · have hall : "!$&'()*+,-.:;=@[]_~".toList.all isVisible = true := rfl
    exact List.all_eq_true.mp hall c (List.contains_iff_mem.mp hmark)

/-- A character that the scan of an authority passes leaves a mark. -/
lemma isVisible_of_step {s s' : AuthorityScan} {c : Char} (h : s.step c = .ok s') : isVisible c = true := by
  by_contra hc
  have hmark (mark : Char) (hvisible : isVisible mark = true) : (c == mark) = false := by
    rw [beq_eq_false_iff_ne]
    rintro rfl
    exact hc hvisible
  unfold AuthorityScan.step at h
  simp only [hmark ':' rfl, hmark '[' rfl, hmark ']' rfl, hmark '@' rfl, hmark '%' rfl, Bool.false_eq_true,
    if_false] at h
  rw [if_neg (mt isVisible_of_isAuthorityChar hc)] at h
  cases h

/-- All characters that the scan of an authority passes leave a mark. -/
lemma isVisible_of_scan {cs : List Char} {s s' : AuthorityScan} (h : cs.foldlM AuthorityScan.step s = .ok s') :
    ∀ c ∈ cs, isVisible c = true := by
  induction cs generalizing s with
  | nil => nofun
  | cons c cs ih =>
    rw [List.foldlM_cons] at h
    obtain ⟨next, hstep, h⟩ := exists_of_bind_eq_ok h
    intro d hd
    obtain rfl | hd := List.mem_cons.mp hd
    · exact isVisible_of_step hstep
    · exact ih h d hd

/-- All characters of an authority that was read leave a mark. -/
lemma isVisible_of_spanAuthority {cs taken rest : List Char} (h : spanAuthority cs = .ok (taken, rest)) :
    ∀ c ∈ taken, isVisible c = true := by
  unfold spanAuthority at h
  split at h
  · cases h
  · simp only at h
    split at h
    · cases h
    · rename_i hscan
      split at h
      · cases h
        exact isVisible_of_scan hscan
      · cases h

/-- What is read with an authority is that authority alone, or it has a scheme before and a path after it. -/
lemma exists_of_ofFull? {cs : List Char} {u : Uri} (h : ofFull? cs = .ok u) :
    (∃ a rest, spanAuthority cs = .ok (a, rest) ∧ u = .authority a) ∨
      ∃ scheme text a rest pq, spanAuthority text = .ok (a, rest) ∧ PathAndQuery.ofChars? rest = .ok pq ∧
        u = .absolute scheme a pq := by
  unfold ofFull? at h
  obtain ⟨scheme?, _, h⟩ := exists_of_bind_eq_ok h
  cases scheme? with
  | none =>
    obtain ⟨⟨a, rest⟩, hspan, h⟩ := exists_of_bind_eq_ok h
    simp only at h
    split at h
    · cases h
      exact .inl ⟨a, rest, hspan, rfl⟩
    · cases h
  | some parts =>
    obtain ⟨⟨a, rest⟩, hspan, h⟩ := exists_of_bind_eq_ok h
    simp only at h
    split at h
    · cases h
    · obtain ⟨pq, hread, h⟩ := exists_of_bind_eq_ok h
      cases h
      exact .inr ⟨_, _, a, rest, pq, hspan, hread, rfl⟩

/-- A target is a star, a path and query that begin with a slash, or it has an authority. -/
lemma exists_of_ofChars? {cs : List Char} {u : Uri} (h : ofChars? cs = .ok u) :
    cs = ['*'] ∧ u = .relative ⟨['*'], none⟩ ∨
      (∃ pq, cs.head? = some '/' ∧ PathAndQuery.ofChars? cs = .ok pq ∧ u = .relative pq) ∨ ofFull? cs = .ok u := by
  unfold ofChars? at h
  split at h
  · cases h
  · split at h
    · cases h
    · cases h
      exact .inl ⟨rfl, rfl⟩
    · cases hread : PathAndQuery.ofChars? _ with
      | error e =>
        rw [hread] at h
        cases h
      | ok pq =>
        rw [hread] at h
        cases h
        exact .inr (.inl ⟨pq, rfl, rfl, rfl⟩)
    · split at h
      · cases h
      · exact .inr (.inr h)
    · exact .inr (.inr h)

/-- A target that begins with a letter has an authority, all of whose characters leave a mark. -/
lemma authority?_of_ofChars? {c : Char} {cs : List Char} {u : Uri} (hc : c.isAlpha = true)
    (h : ofChars? (c :: cs) = .ok u) : ∃ a, u.authority? = some a ∧ ∀ c ∈ a, isVisible c = true := by
  obtain ⟨hstar, _⟩ | ⟨pq, hslash, _⟩ | hfull := exists_of_ofChars? h
  · cases hstar
    exact absurd hc (by decide)
  · cases hslash
    exact absurd hc (by decide)
  · obtain ⟨a, rest, hspan, rfl⟩ | ⟨scheme, text, a, rest, pq, hspan, _, rfl⟩ := exists_of_ofFull? hfull
    · exact ⟨a, rfl, isVisible_of_spanAuthority hspan⟩
    · exact ⟨a, rfl, isVisible_of_spanAuthority hspan⟩

/-- The path and query of a target that was read have only characters that may stand there. -/
lemma isLegal_of_ofChars? {cs : List Char} {u : Uri} (h : ofChars? cs = .ok u) {pq : PathAndQuery}
    (hpq : u.pathAndQuery? = some pq) : pq.IsLegal := by
  obtain ⟨_, rfl⟩ | ⟨read, _, hread, rfl⟩ | hfull := exists_of_ofChars? h
  · cases hpq
    exact ⟨List.forall_mem_singleton.mpr rfl, nofun⟩
  · cases hpq
    exact PathAndQuery.isLegal_of_ofChars? hread
  · obtain ⟨a, rest, _, rfl⟩ | ⟨scheme, text, a, rest, read, _, hread, rfl⟩ := exists_of_ofFull? hfull
    · cases hpq
    · cases hpq
      exact PathAndQuery.isLegal_of_ofChars? hread

/-! #### Scanning an authority -/

/-- Holds for the characters of an authority that mean nothing to its scan. -/
def isPlain (c : Char) : Bool :=
  isAuthorityChar c && !":[]@".toList.contains c

/-- Holds for the characters that no authority has. -/
def isStray (c : Char) : Bool :=
  !isAuthorityChar c && c != '%'

namespace AuthorityScan

variable {s : AuthorityScan} {c : Char} {cs : List Char}

/-- The scan passes a plain character unless an at sign has just been there. -/
lemma step_of_isPlain (hs : s.atEnd = false) (hc : isPlain c = true) : s.step c = .ok s := by
  have hmark (mark : Char) (hplain : isPlain mark = false) : (c == mark) = false := by
    rw [beq_eq_false_iff_ne]
    rintro rfl
    exact Bool.false_ne_true (hplain.symm.trans hc)
  have hsame : { s with atEnd := false } = s := by rw [← hs]
  rw [isPlain, Bool.and_eq_true] at hc
  unfold step
  simp only [hmark ':' rfl, hmark '[' rfl, hmark ']' rfl, hmark '@' rfl, hmark '%' rfl, Bool.false_eq_true, if_false,
    hsame, if_pos hc.1]

/-- The scan counts a colon as long as there are not too many. -/
lemma step_colon (hs : s.atEnd = false) (hcolons : s.colons < colonLimit) :
    s.step ':' = .ok { s with colons := s.colons + 1 } := by
  unfold step
  simp only [beq_self_eq_true, if_true, if_neg (Nat.not_le.mpr hcolons), hs]

/-- The scan stops at a character that no authority has. -/
lemma step_of_isStray (hc : isStray c = true) : s.step c = .error .invalidCharacter := by
  have hmark (mark : Char) (hplain : isStray mark = false) : (c == mark) = false := by
    rw [beq_eq_false_iff_ne]
    rintro rfl
    exact Bool.false_ne_true (hplain.symm.trans hc)
  have hchar : isAuthorityChar c = false := by
    rw [isStray, Bool.and_eq_true] at hc
    simpa using hc.1
  unfold step
  simp only [hmark ':' rfl, hmark '[' rfl, hmark ']' rfl, hmark '@' rfl, hmark '%' rfl, hchar, Bool.false_eq_true,
    if_false]

/-- Colons are counted, up to the greatest number that an authority can have in a row. -/
lemma scan_of_isPlain (hs : s.atEnd = false) (h : ∀ c ∈ cs, isPlain c = true ∨ c = ':')
    (hcolons : s.colons + cs.count ':' ≤ colonLimit) :
    cs.foldlM step s = .ok { s with colons := s.colons + cs.count ':' } := by
  induction cs generalizing s with
  | nil => rfl
  | cons c cs ih =>
    have hrest : ∀ d ∈ cs, isPlain d = true ∨ d = ':' := fun d hd => h d (List.mem_cons_of_mem c hd)
    rw [List.foldlM_cons]
    obtain hc | rfl := h c List.mem_cons_self
    · have hcount : (c :: cs).count ':' = cs.count ':' := by
        apply List.count_cons_of_ne
        rintro rfl
        exact absurd hc (by decide)
      rw [step_of_isPlain hs hc, hcount]
      rw [hcount] at hcolons
      exact ih hs hrest hcolons
    · have hcount : s.colons + (':' :: cs).count ':' = s.colons + 1 + cs.count ':' := by
        rw [List.count_cons_self]
        omega
      rw [hcount] at hcolons ⊢
      rw [step_colon hs (by omega)]
      exact ih (s := { s with colons := s.colons + 1 }) hs hrest hcolons

/-- The first character that no authority has ends the scan. -/
lemma scan_of_isStray (hs : s.atEnd = false) (h : ∀ c ∈ cs, isPlain c = true ∨ isStray c = true)
    (hstray : ∃ c ∈ cs, isStray c = true) (rest : List Char) :
    (cs ++ rest).foldlM step s = .error .invalidCharacter := by
  induction cs with
  | nil =>
    obtain ⟨_, hc, _⟩ := hstray
    cases hc
  | cons c cs ih =>
    rw [List.cons_append, List.foldlM_cons]
    obtain hc | hc := h c List.mem_cons_self
    · rw [step_of_isPlain hs hc]
      refine ih (fun d hd => h d (List.mem_cons_of_mem c hd)) ?_
      obtain ⟨d, hd, hstray⟩ := hstray
      obtain rfl | hd := List.mem_cons.mp hd
      · -- a plain character is one that authorities have
        rw [isPlain, Bool.and_eq_true] at hc
        rw [isStray, hc.1] at hstray
        cases hstray
      · exact ⟨d, hd, hstray⟩
    · rw [step_of_isStray hc]
      rfl

end AuthorityScan

/-- The authority reaches to the slash of the path. -/
lemma span_append_of_within {a rest : List Char} (h : ∀ c ∈ a, endsAuthority c = false) (hrest : rest.head? = some '/') :
    (a ++ rest).span (fun c => !endsAuthority c) = (a, rest) := by
  have hend : ∀ c ∈ a, (!endsAuthority c) = true := by
    intro c hc
    rw [h c hc]
    rfl
  obtain ⟨tail, rfl⟩ : ∃ tail, rest = '/' :: tail := List.head?_eq_some_iff.mp hrest
  exact Text.span_append_cons hend (by decide) tail

/-- The authority of a text ends before the first slash, question mark or number sign. -/
lemma spanAuthority_append {a rest : List Char} (ha : a ≠ []) (h : ∀ c ∈ a, endsAuthority c = false)
    (hrest : rest.head? = some '/') :
    spanAuthority (a ++ rest) = (do
      let s ← a.foldlM AuthorityScan.step {}
      if s.complete then .ok (a, rest) else .error .invalidAuthority) := by
  unfold spanAuthority
  rw [if_neg (by simp [ha])]
  simp only [span_append_of_within h hrest]
  cases a.foldlM AuthorityScan.step {} with
  | error e => rfl
  | ok s => rfl

/-- Whatever is taken as an authority is all that stands before the slash. -/
lemma eq_of_spanAuthority {a rest taken left : List Char} (h : ∀ c ∈ a, endsAuthority c = false)
    (hrest : rest.head? = some '/') (hspan : spanAuthority (a ++ rest) = .ok (taken, left)) :
    taken = a ∧ left = rest := by
  unfold spanAuthority at hspan
  split at hspan
  · cases hspan
  · simp only [span_append_of_within h hrest] at hspan
    split at hspan
    · cases hspan
    · split at hspan
      · cases hspan
        exact ⟨rfl, rfl⟩
      · cases hspan

/-- A scheme of the web is read up to the two slashes. -/
lemma spanScheme_append {scheme rest : List Char} (hscheme : scheme = "http".toList ∨ scheme = "https".toList) :
    spanScheme (scheme ++ "://".toList ++ rest) = .ok (some (scheme, rest)) := by
  have hchars : ∀ c ∈ scheme, isSchemeChar c = true := by
    obtain rfl | rfl := hscheme
    · simp [isSchemeChar]
    · simp [isSchemeChar]
  have hlowered : Text.lowerAscii scheme = scheme := by
    obtain rfl | rfl := hscheme
    · rfl
    · rfl
  have hspan : (scheme ++ "://".toList ++ rest).span isSchemeChar = (scheme, "://".toList ++ rest) := by
    rw [List.append_assoc]
    exact Text.span_append_cons hchars (by decide) _
  have hlength : ¬ (scheme ++ "://".toList ++ rest).length ≤ 3 := by
    obtain rfl | rfl := hscheme
    · simp
    · simp
  unfold spanScheme
  simp only [hspan, Text.after?_eq_some_iff.mpr rfl, hlowered, if_neg hlength]
  exact if_pos (by simpa using hscheme)

/-- A text that begins with a scheme of the protocol is read in parts. -/
lemma ofChars?_of_scheme {scheme rest : List Char} (hscheme : scheme = "http".toList ∨ scheme = "https".toList)
    (hlength : octetCount (scheme ++ "://".toList ++ rest) ≤ lengthLimit) :
    ofChars? (scheme ++ "://".toList ++ rest) = (do
      let (a, rest) ← spanAuthority rest
      if a.isEmpty then throw .invalidFormat
      return .absolute scheme a (← PathAndQuery.ofChars? rest)) := by
  have hfull : ofChars? (scheme ++ "://".toList ++ rest) = ofFull? (scheme ++ "://".toList ++ rest) := by
    unfold ofChars?
    rw [if_neg (Nat.not_lt.mpr hlength)]
    obtain rfl | rfl := hscheme
    · rfl
    · rfl
  rw [hfull, ofFull?, spanScheme_append hscheme]
  rfl

/-- A text that is put together from a scheme of the protocol, an authority and a path falls apart at the same places, if
it is read at all. -/
lemma exists_of_ofChars?_of_scheme {scheme a rest : List Char} {u : Uri}
    (hscheme : scheme = "http".toList ∨ scheme = "https".toList) (hwithin : ∀ c ∈ a, endsAuthority c = false)
    (hrest : rest.head? = some '/') (h : ofChars? (scheme ++ "://".toList ++ (a ++ rest)) = .ok u) :
    ∃ pq, PathAndQuery.ofChars? rest = .ok pq ∧ u = .absolute scheme a pq := by
  have hlength : octetCount (scheme ++ "://".toList ++ (a ++ rest)) ≤ lengthLimit := by
    by_contra hlong
    unfold ofChars? at h
    rw [if_pos (Nat.lt_of_not_le hlong)] at h
    cases h
  rw [ofChars?_of_scheme hscheme hlength] at h
  obtain ⟨⟨taken, left⟩, hspan, hparts⟩ := exists_of_bind_eq_ok h
  obtain ⟨rfl, rfl⟩ := eq_of_spanAuthority hwithin hrest hspan
  simp only at hparts
  split at hparts
  · cases hparts
  · obtain ⟨pq, hread, hparts⟩ := exists_of_bind_eq_ok hparts
    cases hparts
    exact ⟨pq, hread, rfl⟩

end Uri

end Http

end ApiGateway
