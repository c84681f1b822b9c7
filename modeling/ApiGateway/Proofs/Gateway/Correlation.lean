import ApiGateway.Proofs.Gateway.Stripping

/-!
# The id of a request

Every answer carries the id of its request and no other, whoever answers: it is put in last, in the place of what a
backend may have answered. The backend gets the same id, unless the client lists the field in `Connection`; then it
is stripped with the fields of the hop, although the gateway has put it there, and the backend gets none
(`requestId_handle`).
-/

namespace ApiGateway.Gateway

open Http Proxy

/-! ### Ids that requests bring along -/

/-- The first id of the request is text, and this is it without the blanks around it: not empty and not too long. -/
def Brings (headers : Fields) (id : List Char) : Prop :=
  ∃ value text, headers.first? requestIdField = some value ∧ value.text? = some text ∧ id = Text.trim text ∧
    1 ≤ id.length ∧ id.length ≤ 128

/-- An id is taken from the header fields exactly if they bring it. -/
lemma broughtId?_eq_some_iff {headers : Fields} {id : List Char} :
    broughtId? headers = some id ↔ Brings headers id := by
  unfold broughtId?
  simp only [Option.bind_eq_bind, Option.bind_eq_some_iff]
  constructor
  · rintro ⟨value, hvalue, text, htext, hid⟩
    split at hid
    · cases hid
    · next hlength =>
      cases hid
      rw [Bool.or_eq_true, not_or, List.isEmpty_iff, decide_eq_true_eq, Nat.not_lt] at hlength
      exact ⟨value, text, hvalue, htext, rfl, List.length_pos_iff.mpr hlength.1, hlength.2⟩
  · rintro ⟨value, text, hvalue, htext, rfl, hpos, hlimit⟩
    refine ⟨value, hvalue, text, htext, ?_⟩
    have hlength : ¬((Text.trim text).isEmpty || decide (requestIdLimit < (Text.trim text).length)) = true := by
      rw [Bool.or_eq_true, not_or, List.isEmpty_iff, decide_eq_true_eq, Nat.not_lt]
      exact ⟨List.length_pos_iff.mp hpos, hlimit⟩
    exact if_neg hlength

/-- A request has the id that it brings, and a fresh one if it brings none. -/
lemma requestId_cases (around : Surroundings) (req : Request) :
    ∃ id, requestId around req = .ofAscii id ∧
      (Brings req.headers id ∨ (∀ other, ¬Brings req.headers other) ∧ id = around.freshId) := by
  unfold requestId
  cases hid : broughtId? req.headers with
  | some id => exact ⟨id, rfl, .inl (broughtId?_eq_some_iff.mp hid)⟩
  | none =>
    refine ⟨around.freshId, rfl, .inr ⟨?_, rfl⟩⟩
    intro other hother
    rw [broughtId?_eq_some_iff.mpr hother] at hid
    cases hid

/-! ### The answer -/

/-- The answer leaves with the fields that it has, and the number of its octets. -/
lemma values_finish {name : FieldName} (h : Response.contentLength ≠ name) (method : Method) (r : Response) :
    (r.finish method).headers.values name = r.headers.values name := by
  have hlength : r.withLength.headers.values name = r.headers.values name := by
    unfold Response.withLength
    split
    · rfl
    · exact Fields.values_insert_of_ne _ _ h
  unfold Response.finish
  split
  · rfl
  · simp only
    split
    · exact hlength
    · exact hlength

/-! ### What is sent -/

section

variable {g : Gateway} {around : Surroundings} {req sent : Request}

/-- What is sent for a request that is measured is made of the request for some target. -/
lemma exists_of_sent_measure (h : (g.measure around req).sent = some sent) :
    ∃ target, sent = backendRequest req target := by
  have hserve : (g.serve around req).sent = some sent := h
  cases hp : Probe.ofPath? req.uri.path with
  | some p =>
    rw [serve_probe hp] at hserve
    cases hserve
  | none =>
    rw [(serve_backend hp around).1] at hserve
    exact exists_of_sent_forward hserve

/-- What is sent for a request that is limited first is made of the request for some target. -/
lemma exists_of_sent_limit (h : (g.limit around req).sent = some sent) :
    ∃ target, sent = backendRequest req target := by
  cases hexempt : Probe.isExempt req.uri.path with
  | true =>
    rw [limit_probe hexempt] at h
    exact exists_of_sent_measure h
  | false =>
    cases hd : g.admitClient around.now (Limiter.clientKey req.headers req.peer) with
    | mk decision g' =>
      cases decision with
      | allowed =>
        rw [limit_of_allowed hexempt hd] at h
        exact exists_of_sent_measure h
      | limited scope wait =>
        rw [limit_of_limited hexempt hd] at h
        cases h

/-- Whatever a backend is sent was made of the request with its id. -/
lemma exists_of_sent_handle (h : (g.handle around req).sent = some sent) :
    ∃ target, sent = backendRequest (tagged around req) target := by
  rw [handle_eq, delivered, authenticate] at h
  cases hf : (g.gate.check (tagged around req).uri.path (tagged around req).headers).failure? with
  | none =>
    rw [hf] at h
    exact exists_of_sent_limit h
  | some failure =>
    rw [hf] at h
    cases h

end

/-- What is made of a request with an id has this id alone, unless the request lists the field. -/
lemma requestId_backendRequest (around : Surroundings) (req : Request) (target : Uri) :
    (backendRequest (tagged around req) target).headers.values requestIdField =
      if ListsField req.headers requestIdField then [] else [requestId around req] := by
  have hconnection : (tagged around req).headers.values connection = req.headers.values connection :=
    Fields.values_insert_of_ne _ _ (by decide)
  have hlists : ListsField (tagged around req).headers requestIdField ↔ ListsField req.headers requestIdField := by
    rw [ListsField, hconnection]
    rfl
  have hid : (tagged around req).headers.values requestIdField = [requestId around req] :=
    Fields.values_insert_self _ _ _
  refine (values_backendHeaders_of_not_mem (by decide)).trans ?_
  rw [values_stripHop_of_listed _ (by decide) (by decide), hid]
  exact if_congr hlists rfl rfl

/-- Every answer has exactly one id: the one that the request brings, and a fresh one if it brings none. What a backend
is sent has the same one and no other, unless the request lists the field; then it has none. -/
theorem requestId_handle (g : Gateway) (around : Surroundings) (req : Request) :
    ∃ id, (Brings req.headers id ∨ (∀ other, ¬Brings req.headers other) ∧ id = around.freshId) ∧
      (g.handle around req).response.headers.values requestIdField = [.ofAscii id] ∧
      ∀ sent, (g.handle around req).sent = some sent →
        sent.headers.values requestIdField = if ListsField req.headers requestIdField then [] else [.ofAscii id] := by
  obtain ⟨id, hid, hbrings⟩ := requestId_cases around req
  refine ⟨id, hbrings, ?_, ?_⟩
  · rw [handle_eq, delivered, ← hid]
    refine (values_finish (by decide) req.method _).trans ?_
    exact Fields.values_insert_self _ _ _
  · intro sent hsent
    obtain ⟨target, rfl⟩ := exists_of_sent_handle hsent
    rw [← hid]
    exact requestId_backendRequest around req target

/-- A request that brings an id and lists its field. -/
def anonymous : Request :=
  { uri := .relative ⟨"/ws".toList, none⟩
    headers :=
      [ ⟨connection, .ofText "X-Request-Id"⟩, ⟨requestIdField, .ofText " abc "⟩,
        ⟨Auth.Gate.fieldName, .ofText "Bearer secret"⟩ ] }

/-- The client is answered with the id, and the backend is sent a request without one. -/
theorem requestId_handle_anonymous :
    ListsField anonymous.headers requestIdField ∧ Brings anonymous.headers "abc".toList ∧
      (located.handle (quiet 0 "fresh") anonymous).response.headers.values requestIdField = [.ofAscii "abc".toList] ∧
      ∃ sent, (located.handle (quiet 0 "fresh") anonymous).sent = some sent ∧
        sent.headers.values requestIdField = [] := by
  have hlists : ListsField anonymous.headers requestIdField := by decide +kernel
  have hbrings : Brings anonymous.headers "abc".toList := broughtId?_eq_some_iff.mp (by decide +kernel)
  have hsome : (located.handle (quiet 0 "fresh") anonymous).sent.isSome = true := by decide +kernel
  obtain ⟨sent, hsent⟩ := Option.isSome_iff_exists.mp hsome
  obtain ⟨id, hid, hresponse, hstripped⟩ := requestId_handle located (quiet 0 "fresh") anonymous
  obtain hid | ⟨hnone, _⟩ := hid
  · obtain rfl : "abc".toList = id :=
      Option.some.inj ((broughtId?_eq_some_iff.mpr hbrings).symm.trans (broughtId?_eq_some_iff.mpr hid))
    exact ⟨hlists, hbrings, hresponse, sent, hsent, (hstripped sent hsent).trans (if_pos hlists)⟩
  · exact absurd hbrings (hnone _)

end ApiGateway.Gateway
