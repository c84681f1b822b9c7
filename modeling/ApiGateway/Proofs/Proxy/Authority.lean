import ApiGateway.Proofs.Address.Written
import ApiGateway.Proofs.Number.Literal
import ApiGateway.Proofs.Url.Read

/-!
# Hosts in authorities

The host and the port of a URL stand in a request target as its authority. The target is read by a grammar of its own,
in which authorities lack four marks that domain names may have (`strayMarks`). A host without them is an authority, and
one with them is none (`spanAuthority_hostPort`).
-/

namespace ApiGateway

open Http Http.Uri Url

/-! ### The scan of a host -/

/-- The marks that a domain name may have and an authority may not. -/
def strayMarks : List Char :=
  "\"\u0060\x7b\x7d".toList

/-- Letters and digits mean nothing to the scan. -/
lemma isPlain_of_isAlphanum {c : Char} (h : c.isAlphanum = true) : isPlain c = true := by
  have hmark : ∀ mark ∈ ":[]@".toList, mark.isAlphanum = false := by simp
  have hnone : ":[]@".toList.contains c = false := by
    rw [List.contains_eq_mem, decide_eq_false_iff_not]
    intro hc
    exact Bool.false_ne_true ((hmark c hc).symm.trans h)
  rw [isPlain, isAuthorityChar, h, hnone]
  rfl

/-- Plain characters are characters of an authority. -/
lemma isAuthorityChar_of_isPlain {c : Char} (h : isPlain c = true) : isAuthorityChar c = true := by
  rw [isPlain, Bool.and_eq_true] at h
  exact h.1

/-- A character of a domain name is plain, or it is one of the marks. -/
lemma isNameChar_cases {c : Char} (h : Idna.isNameChar c = true) :
    endsAuthority c = false ∧ (strayMarks.contains c = false ∧ isPlain c = true ∨
      strayMarks.contains c = true ∧ isStray c = true) := by
  have hascii : Idna.isAscii c = true := by
    rw [Idna.isNameChar, Bool.and_eq_true] at h
    exact h.1
  revert h
  exact Text.forall_ascii c (of_decide_eq_true hascii) (by decide +kernel)

/-- No character of an authority ends it. -/
lemma endsAuthority_of_isAuthorityChar {c : Char} (h : isAuthorityChar c = true) : endsAuthority c = false := by
  cases hc : endsAuthority c with
  | false => rfl
  | true =>
    rw [endsAuthority, Bool.or_eq_true, Bool.or_eq_true, beq_iff_eq, beq_iff_eq, beq_iff_eq] at hc
    obtain (rfl | rfl) | rfl := hc
    · exact absurd h (by decide)
    · exact absurd h (by decide)
    · exact absurd h (by decide)

/-- A host and its port are written one after the other. -/
lemma hostPort_eq_append (host : List Char) (port : Option Port) :
    Authority.hostPort host port = host ++ Authority.hostPort [] port := by
  cases port with
  | none => exact (List.append_nil host).symm
  | some port => rfl

/-- The port after a host has its colon and plain digits. -/
lemma isPlain_of_mem_port (port : Option Port) :
    (∀ c ∈ Authority.hostPort [] port, isPlain c = true ∨ c = ':') ∧ (Authority.hostPort [] port).count ':' ≤ 1 := by
  cases port with
  | none => exact ⟨nofun, Nat.zero_le 1⟩
  | some port =>
    have hdigit : ∀ c ∈ Number.digits port.toNat, isPlain c = true :=
      fun c hc => isPlain_of_isAlphanum (Number.isAlphanum_of_mem_digits hc)
    have hcount : (Number.digits port.toNat).count ':' = 0 :=
      List.count_eq_zero.mpr fun h => absurd (hdigit ':' h) (by decide)
    refine ⟨?_, ?_⟩
    · intro c hc
      obtain rfl | hc := List.mem_cons.mp hc
      · exact .inr rfl
      · exact .inl (hdigit c hc)
    · rw [Authority.hostPort, List.nil_append, List.count_cons_self, hcount]

/-- The port ends an authority well, whatever was scanned before it. -/
lemma scan_port {s : AuthorityScan} (hs : s.atEnd = false) (hcolons : s.colons = 0) (hpercent : s.percent = false)
    (hbrackets : s.opened = s.closed) (port : Option Port) :
    ∃ s', (Authority.hostPort [] port).foldlM AuthorityScan.step s = .ok s' ∧ s'.complete = true := by
  obtain ⟨hplain, hcount⟩ := isPlain_of_mem_port port
  refine ⟨_, AuthorityScan.scan_of_isPlain hs hplain ?_, ?_⟩
  · rw [hcolons, colonLimit]
    omega
  · simp [AuthorityScan.complete, hs, hcolons, hpercent, hbrackets, hcount]

/-- What the scan of a host comes to, whatever port stands after it. The authority does not end within the host; a
host with one of the marks is an error, and one without marks passes. -/
structure Scans (host : List Char) : Prop where
  within : ∀ c ∈ host, endsAuthority c = false
  error (port : Option Port) : host.any strayMarks.contains = true →
    (Authority.hostPort host port).foldlM AuthorityScan.step {} = .error .invalidCharacter
  pass (port : Option Port) : host.any strayMarks.contains = false →
    ∃ s, (Authority.hostPort host port).foldlM AuthorityScan.step {} = .ok s ∧ s.complete = true

/-- Characters of an authority are no stray marks. -/
lemma any_strayMarks_of_isAuthorityChar {host : List Char} (h : ∀ c ∈ host, isAuthorityChar c = true) :
    host.any strayMarks.contains = false := by
  have hmark : ∀ mark ∈ strayMarks, isAuthorityChar mark = false := by simp [strayMarks, isAuthorityChar]
  rw [List.any_eq_false]
  intro c hc hstray
  exact Bool.false_ne_true ((hmark c (List.contains_iff_mem.mp hstray)).symm.trans (h c hc))

/-- A host of plain characters leaves the scan as it was. -/
lemma scan_host_of_isPlain {host : List Char} (h : ∀ c ∈ host, isPlain c = true) (port : Option Port) :
    ∃ s, (Authority.hostPort host port).foldlM AuthorityScan.step {} = .ok s ∧ s.complete = true := by
  have hcount : host.count ':' = 0 := List.count_eq_zero.mpr fun hc => absurd (h ':' hc) (by decide)
  have hhost : host.foldlM AuthorityScan.step {} = .ok {} := by
    have hchars : ∀ c ∈ host, isPlain c = true ∨ c = ':' := fun c hc => .inl (h c hc)
    have hscan := AuthorityScan.scan_of_isPlain (s := {}) rfl hchars
    rw [hcount] at hscan
    exact hscan (Nat.zero_le _)
  rw [hostPort_eq_append, List.foldlM_append, hhost]
  exact scan_port rfl rfl rfl rfl port

/-- Names scan as they should. -/
lemma scans_domain {name : List Char} (h : ∀ c ∈ name, Idna.isNameChar c = true) : Scans name where
  within c hc := (isNameChar_cases (h c hc)).1
  error port hstray := by
    obtain ⟨c, hc, hmark⟩ := List.any_eq_true.mp hstray
    rw [hostPort_eq_append]
    refine AuthorityScan.scan_of_isStray rfl (fun d hd => ?_) ⟨c, hc, ?_⟩ _
    · exact (isNameChar_cases (h d hd)).2.imp And.right And.right
    · obtain ⟨_, hplain | hmark'⟩ := isNameChar_cases (h c hc)
      · exact absurd (hplain.1.symm.trans hmark) Bool.false_ne_true
      · exact hmark'.2
  pass port hnone := by
    apply scan_host_of_isPlain
    intro c hc
    obtain ⟨_, hplain | hmark⟩ := isNameChar_cases (h c hc)
    · exact hplain.2
    · exact absurd hmark.1 (List.any_eq_false.mp hnone c hc)

/-- An address has characters of authorities only. -/
lemma scans_of_isAuthorityChar {host : List Char} (h : ∀ c ∈ host, isAuthorityChar c = true)
    (hpass : ∀ port, ∃ s, (Authority.hostPort host port).foldlM AuthorityScan.step {} = .ok s ∧ s.complete = true) :
    Scans host where
  within c hc := endsAuthority_of_isAuthorityChar (h c hc)
  error port hstray := by
    rw [any_strayMarks_of_isAuthorityChar h] at hstray
    cases hstray
  pass port _ := hpass port

/-- Version 4 addresses scan as they should. -/
lemma scans_ipv4 (ip : Ipv4) : Scans ip.chars := by
  have hplain : ∀ c ∈ ip.chars, isPlain c = true := by
    intro c hc
    obtain halnum | rfl := Ipv4.mem_chars c hc
    · exact isPlain_of_isAlphanum halnum
    · rfl
  exact scans_of_isAuthorityChar (fun c hc => isAuthorityChar_of_isPlain (hplain c hc)) (scan_host_of_isPlain hplain)

/-- Version 6 addresses in brackets scan as they should. -/
lemma scans_ipv6 (ip : Ipv6) : Scans (Host.ipv6 ip).chars := by
  have hplain : ∀ c ∈ Ipv6.compressed ip.segments, isPlain c = true ∨ c = ':' :=
    fun c hc => (Ipv6.mem_compressed c hc).imp_left isPlain_of_isAlphanum
  have hcount : (Ipv6.compressed ip.segments).count ':' ≤ colonLimit :=
    (Ipv6.count_compressed_le ip.segments).trans_eq ip.length_segments
  apply scans_of_isAuthorityChar
  · intro c hc
    obtain hc | hc := List.mem_append.mp hc
    · obtain rfl | hc := List.mem_cons.mp hc
      · rfl
      · obtain hc | rfl := hplain c hc
        · exact isAuthorityChar_of_isPlain hc
        · rfl
    · rw [List.mem_singleton.mp hc]
      rfl
  · intro port
    have hopen : ({} : AuthorityScan).step '[' = .ok { opened := true } := rfl
    have hclose (n : Nat) :
        AuthorityScan.step { colons := n, opened := true } ']' = .ok { opened := true, closed := true } := rfl
    have hscan := AuthorityScan.scan_of_isPlain (s := { opened := true }) rfl hplain (by simpa using hcount)
    have hhost : (Host.ipv6 ip).chars.foldlM AuthorityScan.step {} = .ok { opened := true, closed := true } := by
      rw [Host.chars, List.cons_append, List.foldlM_cons, hopen]
      show List.foldlM AuthorityScan.step { opened := true } (Ipv6.compressed ip.segments ++ [']']) = _
      rw [List.foldlM_append, hscan]
      exact hclose _
    rw [hostPort_eq_append, List.foldlM_append, hhost]
    exact scan_port rfl rfl rfl rfl port

/-- Every legal host scans as it should. -/
lemma scans_of_isLegal {host : Host} (h : host.IsLegal) : Scans host.chars := by
  cases host with
  | domain name => exact scans_domain h
  | ipv4 ip => exact scans_ipv4 ip
  | ipv6 ip => exact scans_ipv6 ip

/-- An authority does not end within a host and a port. -/
lemma endsAuthority_of_mem_hostPort {host : Host} (h : host.IsLegal) (port : Option Port) :
    ∀ c ∈ Authority.hostPort host.chars port, endsAuthority c = false := by
  rw [hostPort_eq_append]
  intro c hc
  obtain hc | hc := List.mem_append.mp hc
  · exact (scans_of_isLegal h).within c hc
  · obtain hplain | rfl := (isPlain_of_mem_port port).1 c hc
    · exact endsAuthority_of_isAuthorityChar (isAuthorityChar_of_isPlain hplain)
    · rfl

/-- A host and a port, with a path after them, are read as an authority unless the host has one of the marks. -/
lemma spanAuthority_hostPort {host : Host} (h : host.IsLegal) (hne : host.chars ≠ []) (port : Option Port)
    {rest : List Char} (hrest : rest.head? = some '/') :
    spanAuthority (Authority.hostPort host.chars port ++ rest) =
      if host.chars.any strayMarks.contains then .error .invalidCharacter
      else .ok (Authority.hostPort host.chars port, rest) := by
  have hscans := scans_of_isLegal h
  have hauthority : Authority.hostPort host.chars port ≠ [] := by
    rw [hostPort_eq_append]
    exact List.append_ne_nil_of_left_ne_nil hne _
  rw [spanAuthority_append hauthority (endsAuthority_of_mem_hostPort h port) hrest]
  cases hmarks : host.chars.any strayMarks.contains with
  | true =>
    rw [hscans.error port hmarks, if_pos rfl]
    rfl
  | false =>
    obtain ⟨s, hscan, hcomplete⟩ := hscans.pass port hmarks
    rw [hscan, if_neg Bool.false_ne_true]
    exact if_pos hcomplete

end ApiGateway
