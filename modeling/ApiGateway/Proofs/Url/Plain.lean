import ApiGateway.Proofs.Number.Literal
import ApiGateway.Proofs.Text.Octets
import ApiGateway.Proofs.Text.Trim
import ApiGateway.Proofs.Url.Read

/-!
# URLs of named hosts

In `http://host:port` the reader finds exactly the host and the port if both have characters of names only
(`exists_of_ofChars?_host_port`): nothing in them ends a part of the URL. If a label of the host is no number, the host is
the name in lower case (`Host.eq_of_ofSpecial?`), and the port is the number that is written (`eq_of_spanPort_intText`).
-/

namespace ApiGateway.Url

open Idna (isNameChar)

/-! ### Characters of names -/

/-- Characters of names are visible characters of ASCII. -/
lemma Idna.toNat_of_isNameChar {c : Char} (h : isNameChar c = true) : 0x20 < c.toNat ∧ c.toNat < 0x80 := by
  simp only [isNameChar, isAscii, isForbidden, Bool.and_eq_true, decide_eq_true_eq, Bool.not_eq_true',
    Bool.or_eq_false_iff, decide_eq_false_iff_not] at h
  omega

/-- Characters of names are characters of ASCII. -/
lemma Idna.isAscii_of_isNameChar {c : Char} (h : isNameChar c = true) : isAscii c = true :=
  decide_eq_true (toNat_of_isNameChar h).2

/-- A character of names is none of the others. -/
lemma Idna.ne_of_isNameChar {c d : Char} (h : isNameChar c = true) (hd : isNameChar d = false) : c ≠ d := by
  rintro rfl
  exact Bool.false_ne_true (hd.symm.trans h)

/-- Among characters of names there are no others. -/
lemma Idna.not_mem_of_isNameChar {cs : List Char} {d : Char} (h : ∀ c ∈ cs, isNameChar c = true)
    (hd : isNameChar d = false) : d ∉ cs :=
  fun hmem => ne_of_isNameChar (h d hmem) hd rfl

/-- The ASCII form of a name of ASCII characters, if there is one, is the name in small letters. -/
lemma Idna.eq_lowerAscii_of_toAscii? {domain name : List Char} (h : ∀ c ∈ domain, isAscii c = true)
    (hname : toAscii? domain = some name) : name = Text.lowerAscii domain := by
  rw [toAscii?_of_ascii h] at hname
  obtain ⟨shown, _, hname⟩ := Option.bind_eq_some_iff.mp hname
  split at hname
  · cases hname
    rfl
  · cases hname

/-- Letters and digits are characters of names. -/
lemma Idna.isNameChar_of_isAlphanum {c : Char} (h : c.isAlphanum = true) : isNameChar c = true := by
  have hascii : c.toNat < 0x80 := (Text.toNat_of_isAlphanum h).2.trans_lt (by decide)
  revert h
  exact Text.forall_ascii c hascii (by decide +kernel)

/-- A letter is a character of names in both cases or in none. -/
lemma Idna.isNameChar_toLower (c : Char) : isNameChar c.toLower = isNameChar c := by
  apply Text.toLower_congr
  intro c hc
  exact isNameChar_of_isAlphanum (by rw [Char.isAlphanum, hc, Bool.true_or])

/-- Texts that differ in the case of their letters only have characters of names alike. -/
lemma Idna.isNameChar_of_lowerAscii_eq {cs ds : List Char} (h : Text.lowerAscii cs = Text.lowerAscii ds)
    (hcs : ∀ c ∈ cs, isNameChar c = true) : ∀ d ∈ ds, isNameChar d = true := by
  intro d hd
  have hmem : d.toLower ∈ Text.lowerAscii cs := h ▸ List.mem_map_of_mem hd
  obtain ⟨c, hc, heq⟩ := List.mem_map.mp hmem
  rw [← isNameChar_toLower, ← heq, isNameChar_toLower]
  exact hcs c hc

/-- Integers are written in characters of names. -/
lemma Idna.isNameChar_of_mem_intText {n : Int} : ∀ c ∈ (Number.intText n).toList, isNameChar c = true := by
  have hdigits : ∀ c ∈ Number.digits n.natAbs, isNameChar c = true :=
    fun c hc => isNameChar_of_isAlphanum (Number.isAlphanum_of_mem_digits hc)
  rw [Number.toList_intText]
  split
  · exact List.forall_mem_cons.mpr ⟨rfl, hdigits⟩
  · exact hdigits

/-! ### Hosts -/

/-- Nothing is decoded where there is no percent sign. -/
lemma Percent.decodeOctets_of_not_mem {os : List UInt8} (h : 0x25 ∉ os) : decodeOctets os = os := by
  fun_induction decodeOctets os with
  | case1 => rfl
  | case2 a b rest => exact absurd List.mem_cons_self h
  | case3 a b rest => exact absurd List.mem_cons_self h
  | case4 o rest hnot ih =>
    rw [ih fun hmem => h (List.mem_cons_of_mem o hmem)]

/-- A name is decoded to itself. -/
lemma Percent.decode?_of_isNameChar {cs : List Char} (h : ∀ c ∈ cs, isNameChar c = true) : decode? cs = some cs := by
  have hascii : ∀ c ∈ cs, c.toNat < 0x80 := fun c hc => (Idna.toNat_of_isNameChar (h c hc)).2
  have hoctets : 0x25 ∉ Text.octets cs := by
    rw [Text.octets_of_ascii hascii, List.mem_map]
    rintro ⟨c, hc, hpercent⟩
    have hcode : c.toNat = 0x25 := by
      rw [← Text.toNat_octet_of_ascii (hascii c hc), hpercent]
      rfl
    have heq : c = '%' := Char.toNat_inj.mp hcode
    exact Idna.ne_of_isNameChar (h c hc) rfl heq
  rw [decode?, decodeOctets_of_not_mem hoctets]
  exact Text.decode?_octets_of_ascii hascii

namespace Host

/-- A label that is not empty is among those that may be numbers. -/
lemma mem_labels {name label : List Char} (h : label ∈ Text.fields '.' name) (hne : label ≠ []) :
    label ∈ labels name := by
  unfold labels
  simp only
  split
  · rename_i hempty
    rw [Bool.and_eq_true, decide_eq_true_eq, decide_eq_true_eq] at hempty
    rw [← List.dropLast_append_getLast? [] hempty.2] at h
    obtain h | h := List.mem_append.mp h
    · exact h
    · exact absurd (List.mem_singleton.mp h) hne
  · exact h

/-- A name with a label that is no number is no version 4 address. -/
lemma ipv4OfName?_of_mem_labels {name label : List Char} (h : label ∈ labels name) (hnone : partNumber? label = none) :
    ipv4OfName? name = none := by
  unfold ipv4OfName?
  cases hparts : (labels name).mapM partNumber? with
  | none => rfl
  | some parts =>
    obtain ⟨n, hn⟩ := Idna.exists_of_mapM_eq_some hparts label h
    cases hnone.symm.trans hn

/-- A name of which a label is no number is a host of that name, if it is a host. -/
lemma eq_of_ofSpecial? {text label : List Char} {host : Host} (hchars : ∀ c ∈ text, isNameChar c = true)
    (hlabel : label ∈ Text.fields '.' (Text.lowerAscii text)) (hne : label ≠ []) (hnone : partNumber? label = none)
    (h : ofSpecial? text = .ok host) : host = .domain (Text.lowerAscii text) := by
  have hhead : ¬ text.head? = some '[' :=
    fun hhead => Idna.not_mem_of_isNameChar hchars rfl (List.mem_of_head? hhead)
  rw [ofSpecial?, if_neg hhead, Percent.decode?_of_isNameChar hchars, Option.bind_some] at h
  cases hname : Idna.toAscii? text with
  | none =>
    rw [hname] at h
    cases h
  | some name =>
    obtain rfl := Idna.eq_lowerAscii_of_toAscii? (fun c hc => Idna.isAscii_of_isNameChar (hchars c hc)) hname
    rw [hname] at h
    simp only [ipv4OfName?_of_mem_labels (mem_labels hlabel hne) hnone] at h
    split at h
    · cases h
    · split at h
      · cases h
      · cases h
        rfl

end Host

/-! ### The reader -/

/-- There is no user where there is no at sign. -/
lemma splitUser_of_not_mem {cs : List Char} (h : '@' ∉ cs) : splitUser cs = none := by
  have hall : cs.reverse.takeWhile (· != '@') = cs.reverse := by
    rw [List.takeWhile_eq_self_iff]
    intro c hc
    rw [bne_iff_ne]
    rintro rfl
    exact h (List.mem_reverse.mp hc)
  rw [splitUser, hall]
  exact if_pos List.length_reverse

/-- The host reaches to the colon before the port. -/
lemma spanHost_append_colon {host : List Char} (h : ∀ c ∈ host, isNameChar c = true) (rest : List Char) :
    spanHost false (host ++ ':' :: rest) = (host, ':' :: rest) := by
  induction host with
  | nil => rfl
  | cons c host ih =>
    rw [List.forall_mem_cons] at h
    have hcolon : (c == ':') = false := beq_false_of_ne (Idna.ne_of_isNameChar h.1 rfl)
    have hopen : (c == '[') = false := beq_false_of_ne (Idna.ne_of_isNameChar h.1 rfl)
    have hclose : (c == ']') = false := beq_false_of_ne (Idna.ne_of_isNameChar h.1 rfl)
    rw [List.cons_append, spanHost]
    simp only [hcolon, hopen, hclose, Bool.false_and, Bool.false_eq_true, if_false, ih h.2]

/-- Nothing is dropped from a visible text. -/
lemma filter_strip_of_visible {cs : List Char} (h : ∀ c ∈ cs, 0x20 < c.toNat) :
    (Text.strip isPadding cs).filter (!isDropped ·) = cs := by
  have hpadding : ∀ c ∈ cs, isPadding c = false := fun c hc => decide_eq_false (Nat.not_le.mpr (h c hc))
  rw [Text.strip_of_none hpadding, List.filter_eq_self]
  intro c hc
  have hcode := h c hc
  have hne (d : Char) (hd : d.toNat ≤ 0x20) : (c == d) = false := by
    apply beq_false_of_ne
    rintro rfl
    omega
  rw [isDropped, hne '\t' (by decide), hne '\n' (by decide), hne '\r' (by decide)]
  rfl

/-- A visible character that is no mark of the query or the fragment and is read as it is. -/
def isUnmarked (c : Char) : Bool :=
  0x20 < c.toNat && !"?#\\".toList.contains c

/-- Characters of names are unmarked. -/
lemma isUnmarked_of_isNameChar {c : Char} (h : isNameChar c = true) : isUnmarked c = true := by
  have hascii := (Idna.toNat_of_isNameChar h).2
  revert h
  exact Text.forall_ascii c hascii (by decide +kernel)

/-- The reader of a text of such characters goes on to the authority and the path, and nothing stands after them. -/
lemma exists_of_ofChars?_of_isUnmarked {text : List Char} {url : Url} (htext : ∀ c ∈ text, isUnmarked c = true)
    (h : ofChars? ("http:".toList ++ text) = .ok url) :
    ∃ authority path, webParts "http".toList text false = .ok (authority, path) ∧
      url = { scheme := "http".toList, authority, path, query := none, fragment := none } := by
  have hmark {c : Char} (hc : isUnmarked c = true) : 0x20 < c.toNat ∧ c ≠ '?' ∧ c ≠ '#' ∧ c ≠ '\\' := by
    simpa [isUnmarked] using hc
  have hvisible : ∀ c ∈ "http:".toList ++ text, 0x20 < c.toNat := by
    rw [List.forall_mem_append]
    exact ⟨by simp, fun c hc => (hmark (htext c hc)).1⟩
  have hkeep := filter_strip_of_visible hvisible
  have hscheme : spanScheme? ("http:".toList ++ text) = some ("http".toList, text) := rfl
  have hbefore : text.span (fun c => c != '?' && c != '#') = (text, []) := by
    apply Text.span_of_all
    intro c hc
    obtain ⟨_, hquery, hfragment, _⟩ := hmark (htext c hc)
    rw [Bool.and_eq_true, bne_iff_ne, bne_iff_ne]
    exact ⟨hquery, hfragment⟩
  have hslashes : text.map (fun c => if c = '\\' then '/' else c) = text := by
    conv_rhs => rw [← List.map_id text]
    apply List.map_congr_left
    intro c hc
    exact if_neg (hmark (htext c hc)).2.2.2
  have hkind : SchemeKind.ofScheme "http".toList = .web := by decide
  unfold ofChars? at h
  simp only [hkeep, hscheme, hbefore, hkind] at h
  obtain ⟨⟨authority, path⟩, hparts, h⟩ := exists_of_bind_eq_ok h
  have hspecial : SchemeKind.web.isSpecial = true := rfl
  rw [if_pos hspecial, hslashes] at hparts
  cases h
  exact ⟨authority, path, hparts, rfl⟩

section

variable {host port : List Char} (hhost : ∀ c ∈ host, isNameChar c = true) (hport : ∀ c ∈ port, isNameChar c = true)

include hhost hport

/-- The only character of a host and a port that no name has is the colon between them. -/
lemma ne_of_mem_host_port {c d : Char} (hc : c ∈ host ++ ':' :: port) (hd : isNameChar d = false) (hcolon : d ≠ ':') :
    c ≠ d := by
  obtain hc | hc := List.mem_append.mp hc
  · exact Idna.ne_of_isNameChar (hhost c hc) hd
  · obtain rfl | hc := List.mem_cons.mp hc
    · exact hcolon.symm
    · exact Idna.ne_of_isNameChar (hport c hc) hd

/-- What is read of a host and a port is that host and that port, without a user. -/
lemma exists_of_authority?_host_port {scheme : List Char} {more : Bool} {a : Authority} {rest : List Char}
    (h : authority? .web scheme (host ++ ':' :: port) more = .ok (a, rest)) :
    ∃ name number, Host.ofSpecial? host = .ok name ∧ spanPort scheme (':' :: port) = .ok (number, rest) ∧
      a = { host := some name, port := number } := by
  have huser : '@' ∉ host ++ ':' :: port :=
    fun hmem => ne_of_mem_host_port hhost hport hmem rfl (by decide) rfl
  unfold authority? at h
  simp only [splitUser_of_not_mem huser, Option.getD_none, spanHost_append_colon hhost] at h
  obtain ⟨host?, hname, h⟩ := exists_of_bind_eq_ok h
  obtain ⟨name, rfl, hread⟩ := exists_of_hostOf?_web hname
  obtain ⟨⟨number, left⟩, hnumber, h⟩ := exists_of_bind_eq_ok h
  cases h
  exact ⟨name, number, hread, hnumber, rfl⟩

/-- What follows the scheme is read as the host, the port and the shortest path. -/
lemma exists_of_webParts_host_port {scheme : List Char} {more : Bool} {a : Option Authority} {path : List Char}
    (hne : host ≠ []) (h : webParts scheme ('/' :: '/' :: (host ++ ':' :: port)) more = .ok (a, path)) :
    ∃ name number rest, Host.ofSpecial? host = .ok name ∧ spanPort scheme (':' :: port) = .ok (number, rest) ∧
      a = some { host := some name, port := number } ∧ path = ['/'] := by
  have hslash : ∀ c ∈ host ++ ':' :: port, (c != '/') = true :=
    fun c hc => bne_iff_ne.mpr (ne_of_mem_host_port hhost hport hc rfl (by decide))
  have hdrop : ('/' :: '/' :: (host ++ ':' :: port)).dropWhile (· == '/') = host ++ ':' :: port := by
    obtain ⟨first, tail, rfl⟩ := List.exists_cons_of_ne_nil hne
    have hfirst : first ≠ '/' := Idna.ne_of_isNameChar (hhost first List.mem_cons_self) rfl
    show List.dropWhile (· == '/') (first :: (tail ++ ':' :: port)) = _
    exact Text.dropWhile_of_head (beq_false_of_ne hfirst)
  unfold webParts at h
  simp only [hdrop, Text.span_of_all hslash] at h
  obtain ⟨⟨authority, rest⟩, hauthority, h⟩ := exists_of_bind_eq_ok h
  obtain ⟨name, number, hname, hnumber, rfl⟩ := exists_of_authority?_host_port hhost hport hauthority
  cases h
  exact ⟨name, number, rest, hname, hnumber, rfl, rfl⟩

/-- What the reader finds in `http://host:port`. -/
lemma exists_of_ofChars?_host_port {url : Url} (hne : host ≠ [])
    (h : ofChars? ("http:".toList ++ '/' :: '/' :: (host ++ ':' :: port)) = .ok url) :
    ∃ name number rest, Host.ofSpecial? host = .ok name ∧
      spanPort "http".toList (':' :: port) = .ok (number, rest) ∧
        url = { scheme := "http".toList, authority := some { host := some name, port := number }, path := ['/'],
                query := none, fragment := none } := by
  have hplain : ∀ c ∈ '/' :: '/' :: (host ++ ':' :: port), isUnmarked c = true := by
    simp only [List.forall_mem_cons, List.forall_mem_append]
    exact ⟨rfl, rfl, fun c hc => isUnmarked_of_isNameChar (hhost c hc), rfl,
      fun c hc => isUnmarked_of_isNameChar (hport c hc)⟩
  obtain ⟨authority, path, hparts, rfl⟩ := exists_of_ofChars?_of_isUnmarked hplain h
  obtain ⟨name, number, rest, hname, hnumber, rfl, rfl⟩ := exists_of_webParts_host_port hhost hport hne hparts
  exact ⟨name, number, rest, hname, hnumber, rfl⟩

end

/-- Digits are read as the port of that number, or as none if it is the usual one of the scheme. -/
lemma spanPort_of_digits {scheme digits : List Char} (h : ∀ c ∈ digits, c.isDigit = true) {n : Nat}
    (hn : Number.natOfDigits? 10 digits = some n) :
    spanPort scheme (':' :: digits) =
      if 65535 < n then .error .invalidPort
      else .ok (if defaultPort? scheme = some (UInt16.ofNat n) then none else some (UInt16.ofNat n), []) := by
  simp only [spanPort, Text.span_of_all h, hn]
  rfl

/-- A port that is read from an integer is that integer, where 80 need not be written. -/
lemma eq_of_spanPort_intText {n : Int} {port : Option Port} {rest : List Char}
    (h : spanPort "http".toList (':' :: (Number.intText n).toList) = .ok (port, rest)) :
    ((port.getD 80).toNat : Int) = n := by
  rw [Number.toList_intText] at h
  split at h
  · -- no port begins with a minus sign
    cases h
  · rw [spanPort_of_digits (fun c hc => Number.isDigit_of_mem_digits hc) (Number.natOfDigits?_digits _)] at h
    split at h
    · cases h
    · rename_i hsign hlimit
      have hnumber : (UInt16.ofNat n.natAbs).toNat = n.natAbs :=
        UInt16.toNat_ofNat_of_lt' (Nat.lt_succ_of_le (Nat.not_lt.mp hlimit))
      have hdefault : defaultPort? "http".toList = some 80 := by decide
      rw [hdefault] at h
      split at h
      · rename_i heighty
        cases h
        rw [← Option.some.inj heighty] at hnumber
        show ((80 : Nat) : Int) = n
        have habs : 80 = n.natAbs := hnumber
        omega
      · cases h
        rw [Option.getD_some, hnumber]
        omega

end ApiGateway.Url
