import ApiGateway.Address.Socket
import ApiGateway.Proofs.Address.Reader

/-!
# Socket addresses as text

A socket address that is written is read back (`ofChars?_chars`). Whatever text is read, its port is the number after
the last colon (`port_of_ofChars?`).
-/

namespace ApiGateway.SocketAddress

open IpAddress

section

variable {cs rest : List Char} {port : Port}

/-- A whole text is read exactly if nothing of it is left. -/
lemma whole_eq_some_iff {α : Type} {read : Reader α} {a : α} : whole read cs = some a ↔ read cs = some (a, []) := by
  unfold whole
  split
  · rename_i b hread
    rw [hread, Option.some.injEq, Option.some.injEq, Prod.mk.injEq, and_iff_left rfl]
  · rename_i hread
    exact ⟨nofun, fun h => absurd h (hread a)⟩

/-! ### Ports -/

/-- A port is read back from its digits after a colon. -/
lemma colonPort_digits (port : Port) : colonPort (':' :: Number.digits port.toNat) = some (port, []) := by
  have hnumber : number 10 (Number.digits port.toNat).length 65536 true (Number.digits port.toNat ++ []) =
      some (port.toNat, []) :=
    number_toDigits (by decide) (by decide) (Nat.le_refl _) port.toNat_lt nofun
  rw [List.append_nil] at hnumber
  rw [colonPort, expect_eq_some_iff.mpr rfl]
  simp only [Option.bind_eq_bind, Option.bind_some, hnumber]
  exact congrArg (fun port => some (port, [])) UInt16.ofNat_toNat

/-- A port that is read to the end of the text is all there is after a colon. -/
lemma exists_of_colonPort (h : colonPort cs = some (port, [])) :
    ∃ ds, cs = ':' :: ds ∧ Number.natOfDigits? 10 ds = some port.toNat := by
  obtain ⟨⟨_, ds⟩, hcolon, h⟩ := Option.bind_eq_some_iff.mp h
  obtain ⟨⟨n, after⟩, hn, h⟩ := Option.bind_eq_some_iff.mp h
  cases h
  obtain ⟨_, hspan, -, -, hvalue, hlimit⟩ := number_eq_some_iff.mp hn
  rw [← (eq_append_of_spanBase hspan).trans (List.append_nil _)] at hvalue
  refine ⟨ds, expect_eq_some_iff.mp hcolon, ?_⟩
  rw [UInt16.toNat_ofNat_of_lt' hlimit]
  exact hvalue

end

/-! ### Texts -/

/-- The text of a socket address, character by character. -/
lemma toList_text (a : SocketAddress) :
    a.text.toList = match a.ip with
      | .v4 ip => ip.chars ++ ':' :: Number.digits a.port.toNat
      | .v6 ip => '[' :: (ip.chars ++ ']' :: ':' :: Number.digits a.port.toNat) := by
  rw [text]
  cases a.ip with
  | v4 ip => simp
  | v6 ip => simp

/-- A version 6 address in brackets is read back with its port. -/
lemma whole_socketV6 (ip : Ipv6) (port : Port) :
    whole socketV6 ('[' :: (ip.chars ++ ']' :: ':' :: Number.digits port.toNat)) = some ⟨.v6 ip, port⟩ := by
  have hexpect (c : Char) (cs : List Char) : expect c (c :: cs) = some ((), cs) := expect_eq_some_iff.mpr rfl
  have hapart (cs : List Char) : Apart (']' :: cs) :=
    ⟨⟨stops_cons (by decide), fun h => absurd (Option.some.inj h) (by decide)⟩,
      fun h => absurd (Option.some.inj h) (by decide)⟩
  have hscope (cs : List Char) : scope (']' :: cs) = ']' :: cs := rfl
  apply whole_eq_some_iff.mpr
  simp only [socketV6, hexpect, Option.bind_eq_bind, Option.bind_some, ipv6_chars ip (hapart _), hscope,
    colonPort_digits]
  rfl

/-- A socket address that was written is read back. -/
theorem ofText?_text (a : SocketAddress) : ofText? a.text = some a := by
  obtain ⟨ip, port⟩ := a
  rw [ofText?, toList_text, ofChars?]
  cases ip with
  | v4 ip =>
    have hread : whole socketV4 (ip.chars ++ ':' :: Number.digits port.toNat) = some ⟨.v4 ip, port⟩ := by
      apply whole_eq_some_iff.mpr
      simp only [socketV4, ipv4_chars ip (stops_cons (c := ':') (by decide)), Option.bind_eq_bind, Option.bind_some,
        colonPort_digits]
      rfl
    simp only [hread]
    rfl
  | v6 ip =>
    -- no octet begins with a bracket
    have hnone (cs : List Char) : whole socketV4 ('[' :: cs) = none := by
      rw [whole, socketV4, ipv4_of_stops (stops_cons (by decide))]
      rfl
    simp only [hnone, whole_socketV6]
    rfl

/-- What is left after the scope of an address ends the text. -/
lemma suffix_scope (cs : List Char) : scope cs <:+ cs := by
  unfold scope
  split
  · rename_i n rest hscope
    obtain ⟨⟨_, back⟩, hpercent, hn⟩ := Option.bind_eq_some_iff.mp hscope
    exact (suffix_of_number hn).trans (suffix_of_expect hpercent)
  · exact List.suffix_rfl

/-- What is left for the port is an end of the text. -/
lemma exists_suffix_of_ofChars? {cs : List Char} {a : SocketAddress} (h : ofChars? cs = some a) :
    ∃ rest, rest <:+ cs ∧ colonPort rest = some (a.port, []) := by
  obtain h | ⟨-, h⟩ := (Option.orElse_eq_some (whole socketV4 cs) (whole socketV6 cs) a).mp h
  · obtain ⟨⟨ip, cs₁⟩, hip, h⟩ := Option.bind_eq_some_iff.mp (whole_eq_some_iff.mp h)
    obtain ⟨⟨port, cs₂⟩, hport, h⟩ := Option.bind_eq_some_iff.mp h
    cases h
    exact ⟨cs₁, suffix_of_ipv4 hip, hport⟩
  · obtain ⟨⟨_, cs₁⟩, hopen, h⟩ := Option.bind_eq_some_iff.mp (whole_eq_some_iff.mp h)
    obtain ⟨⟨ip, cs₂⟩, hip, h⟩ := Option.bind_eq_some_iff.mp h
    obtain ⟨⟨_, cs₃⟩, hclose, h⟩ := Option.bind_eq_some_iff.mp h
    obtain ⟨⟨port, cs₄⟩, hport, h⟩ := Option.bind_eq_some_iff.mp h
    cases h
    have hend : cs₃ <:+ cs₂ := (suffix_of_expect hclose).trans (suffix_scope cs₂)
    exact ⟨cs₃, hend.trans ((suffix_of_ipv6 hip).trans (suffix_of_expect hopen)), hport⟩

/-- A text with a port at its end is read with that port, whatever stands before it. -/
lemma port_of_ofChars? {host : List Char} {port : Port} {a : SocketAddress}
    (h : ofChars? (host ++ ':' :: Number.digits port.toNat) = some a) : a.port = port := by
  have hno {ds : List Char} (hds : ∀ c ∈ ds, c.isDigit = true) : ':' ∉ ds :=
    fun hmem => absurd (hds ':' hmem) (by decide)
  obtain ⟨rest, ⟨front, hfront⟩, hport⟩ := exists_suffix_of_ofChars? h
  obtain ⟨ds, rfl, hvalue⟩ := exists_of_colonPort hport
  obtain ⟨-, hdigits, -⟩ := Number.natOfDigits?_eq_some_iff.mp hvalue
  rw [Text.eq_of_append_cons_eq hfront (hno hdigits) (hno fun c hc => Number.isDigit_of_mem_digits hc),
    Number.natOfDigits?_digits] at hvalue
  exact UInt16.toNat_inj.mp (Option.some.inj hvalue).symm

end ApiGateway.SocketAddress
