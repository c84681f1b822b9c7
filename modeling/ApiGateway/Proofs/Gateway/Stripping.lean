import ApiGateway.Proofs.Gateway.Transparency

/-!
# What is stripped and what is left

Stripping removes the fields of one hop and nothing else, and a second time there is nothing to remove
(`stripHop_exact`). Which fields those are is read off the message itself.

A request to change the protocol is one before and after, and so is what a backend gets of it, since the fields that the
gateway adds are others (`isUpgrade_backendHeaders`).
-/

namespace ApiGateway

open Http

namespace Http

namespace Fields

/-- The value of a field is among those of its name. -/
lemma value_mem_values {fs : Fields} {f : Http.Field} (h : f ∈ fs) : f.value ∈ fs.values f.name := by
  unfold values
  apply List.mem_map_of_mem
  exact List.mem_filter.mpr ⟨h, decide_eq_true rfl⟩

/-- Of two values inserted under a name the second one stays. -/
lemma insert_insert (fs : Fields) (name : FieldName) (value other : FieldValue) :
    (fs.insert name value).insert name other = fs.insert name other := by
  have hremove : (fs.insert name value).remove name = fs.remove name := by
    simp [insert, append, remove]
  unfold insert at hremove ⊢
  rw [hremove]

end Fields

end Http

namespace Proxy

variable {fs : Fields}

/-! ### Stripping again -/

/-- Once all is stripped the connection lists nothing. -/
lemma listed_stripHop_plain (fs : Fields) : (stripHop fs false).listed connection = [] := by
  have hnone : (stripHop fs false).values connection = [] :=
    values_stripHop_of_dropped (by decide) (.inl (by decide)) fun h => Bool.false_ne_true h.1
  unfold Fields.listed
  rw [hnone]
  rfl

/-- Once all but the upgrade is stripped the connection lists the upgrade alone. -/
lemma listed_stripHop_upgrade (fs : Fields) : (stripHop fs true).listed connection = [upgrade.toList] := by
  unfold Fields.listed
  rw [(values_stripHop_upgrade fs).1]
  decide +kernel

/-- What is left has no field of its hop, a request to change the protocol apart. -/
lemma isOfHop_stripHop {keepUpgrade : Bool} {f : Http.Field} (h : f ∈ stripHop fs keepUpgrade) :
    isOfHop (stripHop fs keepUpgrade) keepUpgrade f.name = false := by
  by_contra hhop
  obtain ⟨hone, hkeep⟩ := isOfHop_iff.mp (Bool.eq_true_of_not_eq_false hhop)
  obtain hknown | hlisted := hone
  · -- a well-known field was removed the first time
    have hmem := Fields.value_mem_values h
    rw [values_stripHop_of_dropped (isName_of_mem_hopByHop hknown) (.inl hknown) hkeep] at hmem
    cases hmem
  · -- of what is left of `Connection` nothing but the change of protocol is listed
    unfold isListed at hlisted
    cases keepUpgrade with
    | false =>
      rw [listed_stripHop_plain] at hlisted
      cases hlisted
    | true =>
      rw [listed_stripHop_upgrade, List.any_cons, List.any_nil, Bool.or_false] at hlisted
      have hspelled : fieldName? upgrade.toList = some upgrade := by decide
      have hname : upgrade = f.name := Option.some.inj (hspelled.symm.trans (of_decide_eq_true hlisted))
      exact hkeep ⟨rfl, .inr hname.symm⟩

/-- What was stripped once is not changed by stripping it again. -/
lemma stripHop_stripHop (fs : Fields) (keepUpgrade : Bool) :
    stripHop (stripHop fs keepUpgrade) keepUpgrade = stripHop fs keepUpgrade := by
  have hkept : (stripHop fs keepUpgrade).removeAll (isOfHop (stripHop fs keepUpgrade) keepUpgrade) =
      stripHop fs keepUpgrade := by
    unfold Fields.removeAll
    rw [List.filter_eq_self]
    intro f hf
    rw [isOfHop_stripHop hf]
    rfl
  rw [stripHop, hkept]
  cases keepUpgrade with
  | false => rfl
  | true => exact Fields.insert_insert _ connection _ _

/-- Keeping a request to change the protocol makes no difference to other fields. -/
lemma filter_stripHop_upgrade (fs : Fields) :
    (stripHop fs true).filter (fun f => f.name ∉ [connection, upgrade]) = stripHop fs false := by
  have hlast : List.filter (fun f => decide (f.name ∉ [connection, upgrade]))
      [Http.Field.mk connection (.ofText "upgrade")] = [] := rfl
  have hstrip : stripHop fs true =
      (fs.removeAll (isOfHop fs true)).remove connection ++ [⟨connection, .ofText "upgrade"⟩] := rfl
  rw [hstrip, List.filter_append, hlast, List.append_nil]
  unfold Fields.remove Fields.removeAll
  rw [List.filter_filter, List.filter_filter]
  apply List.filter_congr
  intro f _
  rw [Bool.eq_iff_iff]
  by_cases hspecial : f.name = connection ∨ f.name = upgrade
  · have hknown : f.name ∈ hopByHop := by
      obtain h | h := hspecial
      · rw [h]
        decide
      · rw [h]
        decide
    simp [isOfHop, hspecial, hknown]
  · rw [not_or] at hspecial
    simp [isOfHop, hspecial]

/-! ### Requests to change the protocol -/

/-- Whether the protocol is to be changed is read off two names. -/
lemma isUpgrade_congr {fs fs' : Fields} (hconnection : fs'.values connection = fs.values connection)
    (hupgrade : fs'.values upgrade = fs.values upgrade) : isUpgrade fs' = isUpgrade fs := by
  unfold isUpgrade Fields.listed
  rw [Fields.has_eq, Fields.has_eq, hconnection, hupgrade]

/-- Stripping makes no upgrade of what was none, and keeps one that was. -/
lemma isUpgrade_stripHop (fs : Fields) : isUpgrade (stripHop fs (isUpgrade fs)) = isUpgrade fs := by
  cases h : isUpgrade fs with
  | false =>
    unfold isUpgrade
    rw [listed_stripHop_plain, List.any_nil, Bool.and_false]
  | true =>
    have hhas : fs.has upgrade = true := by
      unfold isUpgrade at h
      exact (Bool.and_eq_true_iff.mp h).1
    unfold isUpgrade
    rw [listed_stripHop_upgrade, Fields.has_eq, (values_stripHop_upgrade fs).2, ← Fields.has_eq, hhas]
    decide

end Proxy

namespace Gateway

open Proxy

/-- A backend is asked to change the protocol just if the client asks for it. -/
lemma isUpgrade_backendHeaders (req : Request) (target : Uri) :
    isUpgrade (backendHeaders req target) = isUpgrade req.headers := by
  have hset : connection ∉ rewritten ∧ upgrade ∉ rewritten := by decide
  rw [isUpgrade_congr (values_backendHeaders_of_not_mem hset.1) (values_backendHeaders_of_not_mem hset.2)]
  exact isUpgrade_stripHop req.headers

/-- Without a request to change the protocol exactly the well-known fields of one hop and the listed ones are removed,
and the others stay as they are. With one there is the same but for its two fields. To strip again changes nothing, and
a request to change the protocol is one after it, at the backend too, exactly if it was one before. -/
theorem stripHop_exact {fs : Fields} (hnames : ∀ f ∈ fs, IsName f.name) :
    stripHop fs false = fs.filter (fun f => ¬(f.name ∈ hopByHop ∨ ListsField fs f.name)) ∧
      ((stripHop fs true).filter (fun f => f.name ∉ [connection, upgrade]) = stripHop fs false ∧
        (stripHop fs true).values upgrade = fs.values upgrade ∧
          (stripHop fs true).values connection = [.ofText "upgrade"]) ∧
      (∀ keepUpgrade, stripHop (stripHop fs keepUpgrade) keepUpgrade = stripHop fs keepUpgrade) ∧
      isUpgrade (stripHop fs (isUpgrade fs)) = isUpgrade fs ∧
      ∀ req target, req.headers = fs → isUpgrade (backendHeaders req target) = isUpgrade fs := by
  have hplain : stripHop fs false = fs.filter (fun f => ¬(f.name ∈ hopByHop ∨ ListsField fs f.name)) := by
    apply List.filter_congr
    intro f hf
    rw [Bool.eq_iff_iff, Bool.not_eq_true', decide_eq_true_eq, ← isListed_iff (hnames f hf), ← Bool.not_eq_true,
      isOfHop_iff]
    simp
  refine ⟨hplain, ⟨filter_stripHop_upgrade fs, ?_, ?_⟩, stripHop_stripHop fs, isUpgrade_stripHop fs, ?_⟩
  · exact (values_stripHop_upgrade fs).2
  · exact (values_stripHop_upgrade fs).1
  · rintro req target rfl
    exact isUpgrade_backendHeaders req target

/-- Fields that list one in two spellings, one that does not occur and one in a value that is no text. -/
def crowdedFields : Fields :=
  [ ⟨connection, .ofText "close ,\tX-Note"⟩, ⟨"x-note", .ofText "here"⟩, ⟨"te", .ofText "trailers"⟩,
    ⟨connection, ⟨[0xff, 0x2c, 0x61]⟩⟩, ⟨"a", ⟨[0xff]⟩⟩, ⟨connection, .ofText "UPGRADE,x-note"⟩,
    ⟨upgrade, .ofText "websocket"⟩, ⟨"a", .ofText "b"⟩ ]

/-- Of them the two values are left that only the value without a text may have meant. -/
theorem stripHop_exact_crowded :
    (∀ f ∈ crowdedFields, IsName f.name) ∧ isUpgrade crowdedFields = true ∧
      crowdedFields.filter (fun f => ¬(f.name ∈ hopByHop ∨ ListsField crowdedFields f.name)) =
        [⟨"a", ⟨[0xff]⟩⟩, ⟨"a", .ofText "b"⟩] ∧
      stripHop crowdedFields false = [⟨"a", ⟨[0xff]⟩⟩, ⟨"a", .ofText "b"⟩] ∧
      isUpgrade (stripHop crowdedFields true) = true := by
  have hnames : ∀ f ∈ crowdedFields, IsName f.name := by decide +kernel
  have hupgrade : isUpgrade crowdedFields = true := by decide +kernel
  have hleft : crowdedFields.filter (fun f => ¬(f.name ∈ hopByHop ∨ ListsField crowdedFields f.name)) =
      [⟨"a", ⟨[0xff]⟩⟩, ⟨"a", .ofText "b"⟩] := by decide +kernel
  obtain ⟨hplain, _, _, hkept, _⟩ := stripHop_exact hnames
  rw [hupgrade] at hkept
  exact ⟨hnames, hupgrade, hleft, hplain.trans hleft, hkept⟩

end Gateway

end ApiGateway
