import ApiGateway.Limiter.ClientKey
import ApiGateway.Proofs.Address.Reader
import ApiGateway.Proofs.Text.Characters

/-!
# Who shares a bucket

`Forwards` says which client the headers of a request name, if they name one: the one that the first entry of the first
chain spells, blanks around it apart. The request has the key of this client (`clientKey_of_forwards`), and without one
that of its peer's address (`clientKey_of_peer`). No two addresses are written alike, so a client that connects again,
from whatever port, is counted in its bucket of before, and a client at another address never is (`clientKey_eq_iff`).
-/

namespace ApiGateway.Limiter

open Http

variable {headers : Fields} {client : List Char}

/-- The entry is the first of the chain: the others, if there are any, stand behind a comma. -/
def Leads (entry chain : List Char) : Prop :=
  ',' ∉ entry ∧ (chain = entry ∨ ∃ others, chain = entry ++ ',' :: others)

/-- The first chain of the headers is a text, and its first entry is the client with blanks around it at most. -/
def Forwards (headers : Fields) (client : List Char) : Prop :=
  ∃ value chain entry, headers.first? forwardedFor = some value ∧ value.text? = some chain ∧ Leads entry chain ∧
    Text.trim entry = client ∧ client ≠ []

/-- A client is taken from the header fields exactly if they forward it. -/
lemma forwardedClient?_eq_some_iff : forwardedClient? headers = some client ↔ Forwards headers client := by
  constructor
  · intro h
    obtain ⟨value, hvalue, h⟩ := Option.bind_eq_some_iff.mp h
    obtain ⟨chain, hchain, h⟩ := Option.bind_eq_some_iff.mp h
    obtain ⟨entry, hentry, h⟩ := Option.bind_eq_some_iff.mp h
    simp only at h
    split at h
    · cases h
    · rename_i hblank
      cases h
      have hclient : Text.trim entry ≠ [] := fun hnil => hblank (List.isEmpty_iff.mpr hnil)
      exact ⟨value, chain, entry, hvalue, hchain, Text.head?_fields_eq_some_iff.mp hentry, rfl, hclient⟩
  · rintro ⟨value, chain, entry, hvalue, hchain, hentry, rfl, hclient⟩
    have hblank : ¬(Text.trim entry).isEmpty = true := fun hempty => hclient (List.isEmpty_iff.mp hempty)
    simp only [forwardedClient?, hvalue, hchain, Text.head?_fields_eq_some_iff.mpr hentry, Option.bind_eq_bind,
      Option.bind_some, if_neg hblank]

/-- None is taken exactly if they forward none. -/
lemma forwardedClient?_eq_none_iff : forwardedClient? headers = none ↔ ¬∃ client, Forwards headers client := by
  rw [Option.eq_none_iff_forall_ne_some, not_exists]
  exact forall_congr' fun client => not_congr forwardedClient?_eq_some_iff

/-- A client that is forwarded is known by that text, whoever sends the request. -/
lemma clientKey_of_forwards (h : Forwards headers client) (peer : Option SocketAddress) :
    clientKey headers peer = client := by
  simp only [clientKey, forwardedClient?_eq_some_iff.mpr h]

/-- A client that is not forwarded is known by the address of its peer. -/
lemma clientKey_of_peer (h : ¬∃ client, Forwards headers client) (peer : SocketAddress) :
    clientKey headers (some peer) = peer.ip.chars := by
  simp only [clientKey, forwardedClient?_eq_none_iff.mpr h]

/-- Requests that name no client have one key exactly if their peers have one address, whatever the ports are. Requests
that name clients have one key exactly if they name the same one, whatever their peers are, the other entries of their
chains and the other fields. -/
theorem clientKey_eq_iff (headers headers' : Fields) :
    ((¬∃ client, Forwards headers client) → (¬∃ client, Forwards headers' client) →
        ∀ p q : SocketAddress, clientKey headers (some p) = clientKey headers' (some q) ↔ p.ip = q.ip) ∧
      ∀ client client', Forwards headers client → Forwards headers' client' →
        ∀ peer peer', clientKey headers peer = clientKey headers' peer' ↔ client = client' := by
  constructor
  · intro hnone hnone' p q
    rw [clientKey_of_peer hnone, clientKey_of_peer hnone']
    exact IpAddress.chars_injective.eq_iff
  · intro client client' hclient hclient' peer peer'
    rw [clientKey_of_forwards hclient, clientKey_of_forwards hclient']

/-- Two chains, of which the first has a blank entry in front. -/
def nameless : Fields :=
  [⟨forwardedFor, .ofText " \t,10.0.0.1"⟩, ⟨forwardedFor, .ofText "10.0.0.1"⟩]

/-- A chain that is no text before one that is. -/
def unreadable : Fields :=
  [⟨forwardedFor, ⟨[0xff]⟩⟩, ⟨forwardedFor, .ofText "10.0.0.1"⟩]

/-- A chain of two entries before another chain. -/
def relayed : Fields :=
  [⟨forwardedFor, .ofText "\t10.0.0.1 ,10.0.0.2"⟩, ⟨forwardedFor, .ofText "10.0.0.3"⟩]

/-- An address of version 6 that maps one of version 4 has a bucket of its own, and keeps it on another port. A client
that two proxies name differently is one client all the same. -/
theorem clientKey_eq_iff_mapped :
    let v4 : IpAddress := .v4 ⟨1, 2, 3, 4⟩
    let v6 : IpAddress := .v6 ⟨[0, 0, 0, 0, 0, 0xffff, 0x102, 0x304], rfl⟩
    let direct : Fields := [⟨forwardedFor, .ofText "10.0.0.1"⟩]
    (¬∃ client, Forwards nameless client) ∧ (¬∃ client, Forwards unreadable client) ∧
      clientKey nameless (some ⟨v6, 80⟩) ≠ clientKey unreadable (some ⟨v4, 80⟩) ∧
      clientKey nameless (some ⟨v6, 80⟩) = clientKey unreadable (some ⟨v6, 81⟩) ∧
      Forwards relayed "10.0.0.1".toList ∧ Forwards direct "10.0.0.1".toList ∧
      clientKey relayed none = clientKey direct (some ⟨v4, 80⟩) := by
  intro v4 v6 direct
  have hnameless : ¬∃ client, Forwards nameless client := forwardedClient?_eq_none_iff.mp (by decide +kernel)
  have hunreadable : ¬∃ client, Forwards unreadable client := forwardedClient?_eq_none_iff.mp (by decide +kernel)
  have hrelayed : Forwards relayed "10.0.0.1".toList := forwardedClient?_eq_some_iff.mp (by decide +kernel)
  have hdirect : Forwards direct "10.0.0.1".toList := forwardedClient?_eq_some_iff.mp (by decide +kernel)
  have hpeers := (clientKey_eq_iff nameless unreadable).1 hnameless hunreadable
  have hclients := (clientKey_eq_iff relayed direct).2 _ _ hrelayed hdirect
  refine ⟨hnameless, hunreadable, ?_, (hpeers _ _).mpr rfl, hrelayed, hdirect, (hclients _ _).mpr rfl⟩
  intro hsame
  exact absurd ((hpeers _ _).mp hsame) (by decide)

end ApiGateway.Limiter
