import ApiGateway.Proofs.Gateway.Stripping
import ApiGateway.Proofs.Http.FieldText
import ApiGateway.Proofs.Proxy.Authority
import ApiGateway.Proofs.Text.Trim

/-!
# The chain of addresses

A request that is passed on has one chain with the peer at its end. Before the peer stands the first chain that the
client sent, entry by entry, and no other: who spreads a chain over several fields loses all but the first
(`chain_of_forward`).
-/

namespace ApiGateway

open Http

/-! ### Addresses as entries -/

namespace IpAddress

/-- The characters of an address are letters, digits, points and colons. -/
lemma toNat_of_mem_chars {ip : IpAddress} {c : Char} (h : c ∈ ip.chars) : 0x2e ≤ c.toNat ∧ c.toNat ≤ 0x7a := by
  obtain halnum | rfl | rfl := mem_chars c h
  · exact ⟨Nat.le_trans (by decide) (Text.toNat_of_isAlphanum halnum).1, (Text.toNat_of_isAlphanum halnum).2⟩
  · decide
  · decide

variable (ip : IpAddress)

/-- There is no comma in an address. -/
lemma comma_not_mem_chars : ',' ∉ ip.chars := by
  intro h
  exact absurd (toNat_of_mem_chars h).1 (by decide)

/-- There is no blank around an address. -/
lemma trim_chars : Text.trim ip.chars = ip.chars := by
  apply Text.trim_of_no_blank
  intro c hc
  have hcode := toNat_of_mem_chars hc
  simp only [Text.isBlank, Bool.or_eq_false_iff, Bool.and_eq_false_iff, decide_eq_false_iff_not, beq_eq_false_iff_ne]
  omega

/-- An address is written in characters of field texts. -/
lemma isTextChar_of_mem_chars {ip : IpAddress} : ∀ c ∈ ip.chars, FieldValue.isTextChar c = true := by
  intro c hc
  have hcode := toNat_of_mem_chars hc
  simp only [FieldValue.isTextChar, Bool.or_eq_true, Bool.and_eq_true, decide_eq_true_eq]
  omega

end IpAddress

/-! ### Entries of values -/

namespace Http.FieldValue

/-- What a textual value lists between commas, blanks around it dropped. -/
def entries (value : FieldValue) : List (List Char) :=
  ((value.text?.map (Text.fields ',')).getD []).map Text.trim

/-- The entries of a field are the parts of its text between commas, without blanks around them. -/
lemma entries_of_text {value : FieldValue} {text : List Char} (h : value.text? = some text) :
    value.entries = (Text.fields ',' text).map Text.trim := by
  rw [entries, h]
  rfl

/-- A field with a text has an entry, if only an empty one. -/
lemma entries_ne_nil {value : FieldValue} {text : List Char} (h : value.text? = some text) : value.entries ≠ [] := by
  rw [entries_of_text h]
  simpa using Text.fields_ne_nil ',' text

end Http.FieldValue

namespace Proxy

open FieldValue

variable {fs : Fields}

/-- Without a chain the address of the peer is the only entry. -/
lemma chainWith_of_none (h : fs.values Limiter.forwardedFor = []) (peer : SocketAddress) :
    (ofAscii (chainWith fs peer)).text? = some peer.ip.chars ∧
      (ofAscii (chainWith fs peer)).entries = [peer.ip.chars] := by
  have hchain : chainWith fs peer = peer.ip.chars := by
    unfold chainWith Fields.first?
    rw [h]
    rfl
  have htext : (ofAscii (chainWith fs peer)).text? = some peer.ip.chars := by
    rw [hchain]
    exact FieldValue.text?_ofAscii IpAddress.isTextChar_of_mem_chars
  refine ⟨htext, ?_⟩
  rw [entries_of_text htext, Text.fields_of_not_mem peer.ip.comma_not_mem_chars, List.map_singleton,
    peer.ip.trim_chars]

/-- The peer comes after all entries of the first chain. -/
lemma chainWith_of_some {value : FieldValue} {rest : List FieldValue} {text : List Char}
    (h : fs.values Limiter.forwardedFor = value :: rest) (htext : value.text? = some text)
    (hblank : text.all Text.isBlank = false) (peer : SocketAddress) :
    (ofAscii (chainWith fs peer)).text? = some (text ++ ", ".toList ++ peer.ip.chars) ∧
      (ofAscii (chainWith fs peer)).entries = value.entries ++ [peer.ip.chars] := by
  have hchain : chainWith fs peer = text ++ ", ".toList ++ peer.ip.chars := by
    unfold chainWith Fields.first?
    rw [h, List.head?_cons, Option.bind_some, htext]
    simp only [hblank, Bool.false_eq_true, if_false]
  have hlong : (ofAscii (chainWith fs peer)).text? = some (text ++ ", ".toList ++ peer.ip.chars) := by
    rw [hchain]
    apply FieldValue.text?_ofAscii
    intro c hc
    rw [List.mem_append, List.mem_append] at hc
    obtain (hc | hc) | hc := hc
    · exact isTextChar_of_mem_text? htext hc
    · have hall : ∀ c ∈ ", ".toList, isTextChar c = true := by simp [isTextChar]
      exact hall c hc
    · exact IpAddress.isTextChar_of_mem_chars c hc
  refine ⟨hlong, ?_⟩
  have hcut : Text.fields ',' (text ++ ", ".toList ++ peer.ip.chars) =
      Text.fields ',' text ++ [' ' :: peer.ip.chars] := by
    have hlast : ',' ∉ ' ' :: peer.ip.chars := by
      rw [List.mem_cons, not_or]
      exact ⟨by decide, peer.ip.comma_not_mem_chars⟩
    rw [← Text.fields_of_not_mem hlast, ← Text.fields_append, List.append_assoc]
    rfl
  rw [entries_of_text hlong, entries_of_text htext, hcut, List.map_append, List.map_singleton,
    Text.trim_cons_of_isBlank rfl, peer.ip.trim_chars]

/-- The chain with the peer is the only value left. -/
lemma values_addForwarded_for (fs : Fields) (peer : SocketAddress) (host : Option FieldValue) :
    (addForwarded fs (some peer) host).values Limiter.forwardedFor = [ofAscii (chainWith fs peer)] := by
  rw [addForwarded, values_addProto_of_ne (by decide), values_addHost_of_ne (by decide)]
  exact Fields.values_insert_self fs _ _

end Proxy

namespace Gateway

open Proxy

/-- A request with textual chains, none of them blank or to be stripped, is passed on with a single textual chain, which
has the entries of the first of them and then the peer. These are the entries of all of them just if there is no
second one. -/
theorem chain_of_forward {g : Gateway} {send : Send} {req sent : Request} (h : (g.forward send req).sent = some sent)
    {peer : SocketAddress} (hpeer : req.peer = some peer)
    (hchains : ∀ value ∈ req.headers.values Limiter.forwardedFor,
      ∃ text, value.text? = some text ∧ text.all Text.isBlank = false)
    (hunlisted : ¬ListsField req.headers Limiter.forwardedFor) :
    ∃ value text, sent.headers.values Limiter.forwardedFor = [value] ∧ value.text? = some text ∧
      value.entries =
        ((req.headers.values Limiter.forwardedFor).take 1).flatMap FieldValue.entries ++ [peer.ip.chars] ∧
      (value.entries = (req.headers.values Limiter.forwardedFor).flatMap FieldValue.entries ++ [peer.ip.chars] ↔
        (req.headers.values Limiter.forwardedFor).length ≤ 1) := by
  obtain ⟨target, rfl⟩ := exists_of_sent_forward h
  have hkept : (stripHop req.headers (isUpgrade req.headers)).values Limiter.forwardedFor =
      req.headers.values Limiter.forwardedFor := by
    rw [values_stripHop_of_listed _ (by decide) (by decide), if_neg hunlisted]
  have hsent : (backendRequest req target).headers.values Limiter.forwardedFor =
      [.ofAscii (chainWith (stripHop req.headers (isUpgrade req.headers)) peer)] := by
    refine (values_backendHeaders_of_ne (by decide)).trans ?_
    rw [hpeer]
    exact values_addForwarded_for _ peer _
  cases hvalues : req.headers.values Limiter.forwardedFor with
  | nil =>
    obtain ⟨htext, hentries⟩ := chainWith_of_none (hkept.trans hvalues) peer
    refine ⟨_, _, hsent, htext, hentries, ?_⟩
    rw [hentries]
    simp
  | cons first rest =>
    rw [hvalues] at hchains
    obtain ⟨text, htext, hblank⟩ := hchains first List.mem_cons_self
    obtain ⟨hlong, hentries⟩ := chainWith_of_some (hkept.trans hvalues) htext hblank peer
    refine ⟨_, _, hsent, hlong, ?_, ?_⟩
    · rw [hentries]
      simp
    · rw [hentries, List.flatMap_cons, List.append_left_inj, List.self_eq_append_right, List.flatMap_eq_nil_iff]
      constructor
      · intro hnone
        cases rest with
        | nil => exact Nat.le_refl 1
        | cons second rest =>
          -- a second chain has entries of its own
          obtain ⟨other, hother, _⟩ := hchains second (List.mem_cons_of_mem _ List.mem_cons_self)
          exact absurd (hnone second List.mem_cons_self) (FieldValue.entries_ne_nil hother)
      · intro hlength value hvalue
        have hrest : rest = [] := List.eq_nil_of_length_eq_zero (Nat.le_zero.mp (Nat.le_of_succ_le_succ hlength))
        rw [hrest] at hvalue
        cases hvalue

/-- A request that came through two proxies, each of which wrote a chain of its own. -/
def relayed : Request :=
  { uri := .relative ⟨"/ws".toList, none⟩
    headers := [⟨Limiter.forwardedFor, .ofText "a"⟩, ⟨Limiter.forwardedFor, .ofText "b"⟩]
    peer := some ⟨.v4 ⟨1, 1, 1, 1⟩, 1⟩ }

/-- The backend never learns of the second. -/
theorem chain_of_forward_relayed :
    (∀ value ∈ relayed.headers.values Limiter.forwardedFor,
        ∃ text, value.text? = some text ∧ text.all Text.isBlank = false) ∧
      ¬ListsField relayed.headers Limiter.forwardedFor ∧
      ∃ sent value, (located.forward switching relayed).sent = some sent ∧
        sent.headers.values Limiter.forwardedFor = [value] ∧
        value.entries = ["a".toList, "1.1.1.1".toList] ∧
        (relayed.headers.values Limiter.forwardedFor).flatMap FieldValue.entries = ["a".toList, "b".toList] := by
  have hchains : ∀ value ∈ relayed.headers.values Limiter.forwardedFor,
      ∃ text ∈ value.text?, text.all Text.isBlank = false := by decide +kernel
  have hunlisted : ¬ListsField relayed.headers Limiter.forwardedFor := by decide +kernel
  have hsome : (located.forward switching relayed).sent.isSome = true := by decide +kernel
  obtain ⟨sent, hsent⟩ := Option.isSome_iff_exists.mp hsome
  obtain ⟨value, text, hvalue, htext, hentries, _⟩ := chain_of_forward hsent rfl hchains hunlisted
  refine ⟨hchains, hunlisted, sent, value, hsent, hvalue, ?_, ?_⟩
  · rw [hentries]
    decide +kernel
  · decide +kernel

end Gateway

end ApiGateway
