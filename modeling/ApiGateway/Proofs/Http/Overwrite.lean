import ApiGateway.Proxy.Forwarded
import ApiGateway.Proxy.HopByHop
import Mathlib.Tactic.Lemma

/-!
# One value in the place of others

`Fields.overwrite` puts a value in the place of every value of a name and leaves all else where it is. Who
reads other names reads the same, and what is done to fields by their names can be done before or after. So a
value that the way to a backend does not look at can be overwritten on either side of it
(`stripHop_overwrite`, `addForwarded_overwrite`).
-/

namespace ApiGateway

open Http

namespace Http.Fields

/-- With the value in the place of every value of the name. -/
def overwrite (fs : Fields) (name : FieldName) (value : FieldValue) : Fields :=
  fs.map fun f => if f.name = name then { f with value } else f

variable {name other : FieldName}

/-- Fields can be chosen by name before or after. -/
lemma filter_overwrite (fs : Fields) (p : FieldName → Bool) (name : FieldName) (value : FieldValue) :
    (fs.overwrite name value).filter (fun f => p f.name) =
      overwrite (fs.filter fun f => p f.name) name value := by
  unfold overwrite
  rw [List.filter_map]
  congr 1
  apply List.filter_congr
  intro f _
  rw [Function.comp_apply]
  split
  · rfl
  · rfl

/-- Where the name does not occur nothing is overwritten. -/
lemma overwrite_of_absent {fs : Fields} (h : ∀ f ∈ fs, f.name ≠ name) (value : FieldValue) :
    fs.overwrite name value = fs := by
  unfold overwrite
  rw [List.map_congr_left (g := id), List.map_id]
  intro f hf
  exact if_neg (h f hf)

/-- The values of another name are the same. -/
lemma values_overwrite_of_ne (fs : Fields) (h : name ≠ other) (value : FieldValue) :
    (fs.overwrite name value).values other = fs.values other := by
  unfold values
  rw [filter_overwrite fs (fun n => decide (n = other)), overwrite_of_absent]
  intro f hf
  rw [of_decide_eq_true (List.mem_filter.mp hf).2]
  exact h.symm

/-- Overwriting a name leaves the first values of the others. -/
lemma first?_overwrite_of_ne (fs : Fields) (h : name ≠ other) (value : FieldValue) :
    (fs.overwrite name value).first? other = fs.first? other := by
  unfold first?
  rw [values_overwrite_of_ne fs h]

/-- Overwriting a name leaves what the others list. -/
lemma listed_overwrite_of_ne (fs : Fields) (h : name ≠ other) (value : FieldValue) :
    (fs.overwrite name value).listed other = fs.listed other := by
  unfold listed
  rw [values_overwrite_of_ne fs h]

/-- The same names occur. -/
lemma has_overwrite (fs : Fields) (name other : FieldName) (value : FieldValue) :
    (fs.overwrite name value).has other = fs.has other := by
  unfold has overwrite
  rw [List.any_map]
  congr 1
  funext f
  rw [Function.comp_apply]
  split
  · rfl
  · rfl

/-- What is removed is removed before or after an overwriting alike. -/
lemma removeAll_overwrite (fs : Fields) (p : FieldName → Bool) (name : FieldName) (value : FieldValue) :
    (fs.overwrite name value).removeAll p = (fs.removeAll p).overwrite name value :=
  filter_overwrite fs (fun n => !p n) name value

/-- Another name can be inserted before or after. -/
lemma insert_overwrite_of_ne (fs : Fields) (h : name ≠ other) (value inserted : FieldValue) :
    (fs.overwrite name value).insert other inserted = (fs.insert other inserted).overwrite name value := by
  unfold insert remove append
  rw [filter_overwrite fs fun n => decide (n ≠ other)]
  simp [overwrite, h.symm]

/-- An inserted value is the only one that is overwritten. -/
lemma overwrite_insert_self (fs : Fields) (name : FieldName) (inserted value : FieldValue) :
    (fs.insert name inserted).overwrite name value = fs.insert name value := by
  have habsent : overwrite (fs.remove name) name value = fs.remove name :=
    overwrite_of_absent (fun f hf => of_decide_eq_true (List.mem_filter.mp hf).2) value
  unfold overwrite at habsent
  unfold insert append overwrite
  rw [List.map_append, habsent]
  simp

end Http.Fields

namespace Proxy

variable {name : FieldName}

/-- Whether the protocol is to be changed does not hang on other names. -/
lemma isUpgrade_overwrite (fs : Fields) (h : name ≠ connection) (value : FieldValue) :
    isUpgrade (fs.overwrite name value) = isUpgrade fs := by
  unfold isUpgrade
  rw [Fields.has_overwrite, Fields.listed_overwrite_of_ne fs h]

/-- The fields of the hop can be removed before or after. -/
lemma stripHop_overwrite (fs : Fields) (h : name ≠ connection) (keepUpgrade : Bool) (value : FieldValue) :
    stripHop (fs.overwrite name value) keepUpgrade = (stripHop fs keepUpgrade).overwrite name value := by
  have hhop : isOfHop (fs.overwrite name value) keepUpgrade = isOfHop fs keepUpgrade := by
    funext n
    unfold isOfHop isListed
    rw [Fields.listed_overwrite_of_ne fs h]
  unfold stripHop
  rw [hhop, Fields.removeAll_overwrite]
  cases keepUpgrade with
  | false => rfl
  | true => exact Fields.insert_overwrite_of_ne _ h value _

/-- The forwarded fields can be added before or after. -/
lemma addForwarded_overwrite (fs : Fields) (hfor : name ≠ Limiter.forwardedFor) (hhost : name ≠ forwardedHost)
    (hproto : name ≠ forwardedProto) (peer : Option SocketAddress) (host : Option FieldValue)
    (value : FieldValue) :
    addForwarded (fs.overwrite name value) peer host = (addForwarded fs peer host).overwrite name value := by
  have hchain : addPeer (fs.overwrite name value) peer = (addPeer fs peer).overwrite name value := by
    unfold addPeer chainWith
    cases peer with
    | none => rfl
    | some peer =>
      simp only [Fields.first?_overwrite_of_ne fs hfor]
      exact Fields.insert_overwrite_of_ne fs hfor value _
  have hasked (fs : Fields) : addHost (fs.overwrite name value) host = (addHost fs host).overwrite name value := by
    unfold addHost
    cases host with
    | none => rfl
    | some host => exact Fields.insert_overwrite_of_ne fs hhost value _
  unfold addForwarded addProto
  rw [hchain, hasked, Fields.has_overwrite]
  split
  · rfl
  · exact Fields.insert_overwrite_of_ne _ hproto value _

end Proxy

end ApiGateway
