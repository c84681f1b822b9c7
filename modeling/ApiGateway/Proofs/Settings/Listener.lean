import ApiGateway.Proofs.Address.Socket
import ApiGateway.Proofs.Gateway.Setup

/-!
# The address to listen on

Settings with an IP address for their host listen on that address, and with any other host they are refused or listen on
their own port all the same (`listenAddress_exact`).
-/

namespace ApiGateway.Settings

/-- The hosts that name the address: its text, which may stand in brackets if it is of version 6. -/
def hosts : IpAddress → List String
  | .v4 ip => [String.ofList ip.chars]
  | .v6 ip => [String.ofList ip.chars, String.ofList ('[' :: ip.chars ++ [']'])]

section

variable {host : List Char}

/-- A host without a colon is written as it is. -/
lemma bracketedHost_of_not_mem (h : ':' ∉ host) : bracketedHost host = host := by
  rw [bracketedHost, List.contains_eq_mem, decide_eq_false h]
  rfl

/-- A host that begins with a bracket is written as it is. -/
lemma bracketedHost_of_bracket : bracketedHost ('[' :: host) = '[' :: host := by
  simp [bracketedHost]

/-- A host with a colon and no bracket is written in brackets. -/
lemma bracketedHost_of_mem (hcolon : ':' ∈ host) (hopen : '[' ∉ host) : bracketedHost host = '[' :: host ++ [']'] := by
  have hhead : host.head? ≠ some '[' := fun h => hopen (List.mem_of_head? h)
  rw [bracketedHost, List.contains_eq_mem, decide_eq_true hcolon, Bool.true_and, if_pos (bne_iff_ne.mpr hhead)]

end

variable {s : Settings} {ip : IpAddress}

/-- Version 6 addresses are written in brackets. -/
lemma bracketedHost_chars (ip : Ipv6) : bracketedHost ip.chars = '[' :: ip.chars ++ [']'] := by
  apply bracketedHost_of_mem ip.colon_mem_chars
  intro h
  have hchar : '[' ∈ (IpAddress.v6 ip).chars := h
  obtain halnum | hpoint | hcolon := IpAddress.mem_chars '[' hchar
  · exact absurd halnum (by decide)
  · cases hpoint
  · cases hcolon

/-- The address to listen on is written as any socket address is. -/
lemma listenAddress_of_mem_hosts (h : s.listenHost ∈ hosts ip) :
    String.ofList s.listenAddress = SocketAddress.text ⟨ip, s.port⟩ := by
  rw [← String.toList_inj, String.toList_ofList, SocketAddress.toList_text, listenAddress]
  cases ip with
  | v4 ip =>
    rw [List.mem_singleton.mp h, String.toList_ofList, bracketedHost_of_not_mem ip.colon_not_mem_chars]
  | v6 ip =>
    have hbracketed : bracketedHost s.listenHost.toList = '[' :: ip.chars ++ [']'] := by
      rw [hosts, List.mem_cons, List.mem_singleton] at h
      obtain hplain | hbrackets := h
      · rw [hplain, String.toList_ofList]
        exact bracketedHost_chars ip
      · rw [hbrackets, String.toList_ofList]
        exact bracketedHost_of_bracket
    rw [hbracketed]
    simp

/-- The listener has no problem exactly if its address can be read. -/
lemma listenProblems_eq_nil_iff : s.listenProblems = [] ↔ (SocketAddress.ofChars? s.listenAddress).isSome = true :=
  ensure_eq_nil_iff

/-- Settings whose host is the text of an address listen on exactly this address and their port, and validation accepts
them for that. Whatever their host is, validation accepts it exactly if they listen on their port: no host brings
another one. -/
theorem listenAddress_exact (s : Settings) :
    (∀ ip, s.listenHost ∈ hosts ip →
        SocketAddress.ofChars? s.listenAddress = some ⟨ip, s.port⟩ ∧ s.listenProblems = []) ∧
      (s.listenProblems = [] ↔ ∃ ip, SocketAddress.ofChars? s.listenAddress = some ⟨ip, s.port⟩) := by
  constructor
  · intro ip h
    have hread : SocketAddress.ofChars? s.listenAddress = some ⟨ip, s.port⟩ := by
      rw [← SocketAddress.ofText?_text ⟨ip, s.port⟩, ← listenAddress_of_mem_hosts h, SocketAddress.ofText?,
        String.toList_ofList]
    refine ⟨hread, listenProblems_eq_nil_iff.mpr ?_⟩
    rw [hread]
    rfl
  · rw [listenProblems_eq_nil_iff, Option.isSome_iff_exists]
    constructor
    · rintro ⟨⟨ip, port⟩, hread⟩
      obtain rfl : port = s.port := SocketAddress.port_of_ofChars? hread
      exact ⟨ip, hread⟩
    · rintro ⟨ip, hread⟩
      exact ⟨_, hread⟩

/-- An address with a gap, in brackets. -/
theorem listenAddress_gap :
    let ip : IpAddress := .v6 ⟨[0x2001, 0xdb8, 0, 0, 0, 0xff00, 0x42, 0x8329], rfl⟩
    let s : Settings := { listenHost := "[2001:db8::ff00:42:8329]", port := 443 }
    s.listenHost ∈ hosts ip ∧ SocketAddress.ofChars? s.listenAddress = some ⟨ip, 443⟩ ∧ s.listenProblems = [] := by
  intro ip s
  have hhost : s.listenHost ∈ hosts ip := by decide
  exact ⟨hhost, (listenAddress_exact s).1 ip hhost⟩

/-- A port that is hidden in the host is not taken. -/
example : ({ listenHost := "[::1]:99" } : Settings).listenProblems = [.listenAddress "[::1]:99:8080".toList] := by decide

end ApiGateway.Settings
