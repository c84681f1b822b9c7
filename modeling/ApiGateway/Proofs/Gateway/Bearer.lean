import ApiGateway.Auth
import ApiGateway.Proofs.Http.FieldText
import ApiGateway.Proofs.Text.Trim

/-!
# What the gate accepts

`Presents` says of a text, without the trims and the cut of the gate, that it is the scheme with a token after it, and
nothing but spaces and tabs around both. Of the texts that a field value can carry the gate accepts just these
(`presents_iff`), so each verdict of the gate is one on the first credential of a request (`verdict_check`), and which
one is given when is `check_exact`. A text presents one token at most, so no request passes two gates of different
tokens.
-/

namespace ApiGateway.Auth.Gate

open Http

variable {token path text : List Char} {headers : Fields}

/-- A token that can be presented: it is not empty, and no blanks are around it. Blanks may be in it. -/
structure IsToken (token : List Char) : Prop where
  ne_nil : token ≠ []
  trimmed : Text.trim token = token

/-- Spaces and tabs only. -/
def IsSpacing (cs : List Char) : Prop :=
  ∀ c ∈ cs, c = ' ' ∨ c = '\t'

/-- The text is the scheme and the token, with spacing before, between and after them. -/
def Presents (token text : List Char) : Prop :=
  ∃ before between after, IsSpacing before ∧ IsSpacing between ∧ IsSpacing after ∧
    text = before ++ scheme ++ between ++ token ++ after

/-- Spacing is blank. -/
lemma IsSpacing.isBlank {cs : List Char} (h : IsSpacing cs) : ∀ c ∈ cs, Text.isBlank c = true := by
  intro c hc
  obtain rfl | rfl := h c hc
  · rfl
  · rfl

/-- Spacing after spacing is spacing. -/
lemma IsSpacing.append {cs ds : List Char} (hcs : IsSpacing cs) (hds : IsSpacing ds) : IsSpacing (cs ++ ds) :=
  List.forall_mem_append.mpr ⟨hcs, hds⟩

/-- The only blanks that a field value can carry are spaces and tabs. -/
lemma isSpacing_of_isBlank {cs : List Char} (hblank : ∀ c ∈ cs, Text.isBlank c = true)
    (htext : ∀ c ∈ cs, FieldValue.isTextChar c = true) : IsSpacing cs := by
  intro c hc
  have hascii : c.toNat < 0x80 := Nat.lt_succ_of_lt (FieldValue.toNat_of_isTextChar (htext c hc))
  have hspace := hblank c hc
  have hchar := htext c hc
  revert hspace hchar
  exact Text.forall_ascii c hascii (by decide)

/-- A token does not end with a blank. -/
lemma IsToken.getLast? (h : IsToken token) {c : Char} (hc : token.getLast? = some c) : Text.isBlank c = false := by
  rw [← h.trimmed] at hc
  exact Text.getLast?_trim hc

/-- Nothing is trimmed off the scheme and what ends like a token. -/
lemma trim_scheme_append (h : IsToken token) (lead : List Char) :
    Text.trim (scheme ++ (lead ++ token)) = scheme ++ (lead ++ token) := by
  apply Text.trim_of_not_blank
  · intro c hc
    cases hc
    rfl
  · intro c hc
    rw [← List.append_assoc, List.getLast?_append_of_ne_nil _ h.ne_nil] at hc
    exact h.getLast? hc

/-- Where the gate finds the token of a text that presents it. -/
lemma Presents.exists_after? (htoken : IsToken token) (h : Presents token text) :
    ∃ presented, Text.after? scheme (Text.trim text) = some presented ∧ Text.trim presented = token := by
  obtain ⟨before, between, after, hbefore, hbetween, hafter, rfl⟩ := h
  refine ⟨between ++ token, ?_, ?_⟩
  · have hinner : before ++ scheme ++ between ++ token ++ after =
        before ++ (scheme ++ (between ++ token)) ++ after := by
      simp only [List.append_assoc]
    rw [hinner, Text.trim_append_of_blank hbefore.isBlank hafter.isBlank, trim_scheme_append htoken]
    exact Text.after?_eq_some_iff.mpr rfl
  · have hnone : ∀ c ∈ ([] : List Char), Text.isBlank c = true := nofun
    rw [← List.append_nil (between ++ token), Text.trim_append_of_blank hbetween.isBlank hnone, htoken.trimmed]

/-- What the gate finds as a token is presented. -/
lemma presents_trim (htext : ∀ c ∈ text, FieldValue.isTextChar c = true) {presented : List Char}
    (h : Text.after? scheme (Text.trim text) = some presented) : Presents (Text.trim presented) text := by
  obtain ⟨before, after, hbefore, hafter, houter⟩ := Text.exists_eq_append_trim text
  obtain ⟨between, rest, hbetween, hrest, hinner⟩ := Text.exists_eq_append_trim presented
  rw [Text.after?_eq_some_iff.mp h] at houter
  generalize Text.trim presented = token at hinner ⊢
  subst hinner
  subst houter
  simp only [List.forall_mem_append] at htext
  obtain ⟨⟨htextBefore, _, ⟨htextBetween, _⟩, htextRest⟩, htextAfter⟩ := htext
  refine ⟨before, between, rest ++ after, ?_, ?_, ?_, ?_⟩
  · exact isSpacing_of_isBlank hbefore htextBefore
  · exact isSpacing_of_isBlank hbetween htextBetween
  · exact (isSpacing_of_isBlank hrest htextRest).append (isSpacing_of_isBlank hafter htextAfter)
  · simp only [List.append_assoc]

/-- A text presents what the gate takes for its token, and no other token. -/
lemma presents_iff (htoken : IsToken token) (htext : ∀ c ∈ text, FieldValue.isTextChar c = true) :
    Presents token text ↔
      ∃ presented, Text.after? scheme (Text.trim text) = some presented ∧ Text.trim presented = token := by
  constructor
  · exact Presents.exists_after? htoken
  · rintro ⟨presented, hpresented, rfl⟩
    exact presents_trim htext hpresented

/-- A text presents no two tokens. -/
lemma Presents.token_eq {other : List Char} (htoken : IsToken token) (hother : IsToken other)
    (h : Presents token text) (hsame : Presents other text) : token = other := by
  obtain ⟨presented, hpresented, rfl⟩ := h.exists_after? htoken
  obtain ⟨presented', hpresented', rfl⟩ := hsame.exists_after? hother
  rw [Option.some.inj (hpresented.symm.trans hpresented')]

/-- A text that presents a token begins with the scheme, after blanks. -/
lemma Presents.isPrefix (htoken : IsToken token) (h : Presents token text) : scheme <+: Text.trim text := by
  obtain ⟨presented, hpresented, _⟩ := h.exists_after? htoken
  exact ⟨presented, (Text.after?_eq_some_iff.mp hpresented).symm⟩

/-- The verdict on the first credential of a request. -/
inductive Verdict (token : List Char) (headers : Fields) : Decision → Prop where
  | absent : headers.first? fieldName = none → Verdict token headers (.denied .missing)
  | unreadable {value} : headers.first? fieldName = some value → value.text? = none →
      Verdict token headers (.denied .malformed)
  | foreign {value text} : headers.first? fieldName = some value → value.text? = some text →
      ¬ scheme <+: Text.trim text → Verdict token headers (.denied .malformed)
  | other {value text} : headers.first? fieldName = some value → value.text? = some text →
      scheme <+: Text.trim text → ¬ Presents token text → Verdict token headers (.denied .invalid)
  | right {value text} : headers.first? fieldName = some value → value.text? = some text →
      Presents token text → Verdict token headers .authorized

/-- The verdict on a text is right. -/
lemma verdict_judge (htoken : IsToken token) {value : FieldValue} (hfirst : headers.first? fieldName = some value)
    (htext : value.text? = some text) : Verdict token headers (judge token text) := by
  have hcarried : ∀ c ∈ text, FieldValue.isTextChar c = true := fun c hc => FieldValue.isTextChar_of_mem_text? htext hc
  have hpresents := presents_iff htoken hcarried
  unfold judge
  cases hafter : Text.after? scheme (Text.trim text) with
  | none =>
    apply Verdict.foreign hfirst htext
    rintro ⟨presented, hpresented⟩
    rw [Text.after?_eq_some_iff.mpr hpresented.symm] at hafter
    cases hafter
  | some presented =>
    simp only [hafter, Option.some.injEq, exists_eq_left'] at hpresents
    simp only
    split
    · next heq => exact .right hfirst htext (hpresents.mpr heq)
    · next hne =>
      apply Verdict.other hfirst htext
      · exact ⟨presented, (Text.after?_eq_some_iff.mp hafter).symm⟩
      · exact fun h => hne (hpresents.mp h)

/-- The verdict on a request is right, whatever header fields it has. -/
lemma verdict_check (htoken : IsToken token) (hpath : Probe.isExempt path = false) (headers : Fields) :
    Verdict token headers ((Gate.mk (some token)).check path headers) := by
  rw [check, hpath]
  cases hfirst : headers.first? fieldName with
  | none => exact .absent hfirst
  | some value =>
    cases htext : value.text? with
    | none =>
      simp only [htext, Bool.false_eq_true, if_false]
      exact .unreadable hfirst htext
    | some text =>
      simp only [htext, Bool.false_eq_true, if_false]
      exact verdict_judge htoken hfirst htext

/-- A request is authorized exactly if its first credential is a text that presents the token. -/
lemma check_eq_authorized_iff (htoken : IsToken token) (hpath : Probe.isExempt path = false) :
    (Gate.mk (some token)).check path headers = .authorized ↔
      ∃ value text, headers.first? fieldName = some value ∧ value.text? = some text ∧ Presents token text := by
  have hverdict := verdict_check htoken hpath headers
  generalize (Gate.mk (some token)).check path headers = decision at hverdict ⊢
  cases hverdict with
  | absent hfirst => simp [hfirst]
  | unreadable hfirst htext => simp [hfirst, htext]
  | foreign hfirst htext hscheme =>
    simp only [hfirst, reduceCtorEq, false_iff]
    rintro ⟨_, _, ⟨⟩, htext', hpresents⟩
    cases htext.symm.trans htext'
    exact hscheme (hpresents.isPrefix htoken)
  | other hfirst htext hscheme hnot => simp [hfirst, htext, hnot]
  | right hfirst htext hpresents => simp [hfirst, htext, hpresents]

/-- On a path that is not exempt, the gate of a token authorizes a request exactly if its first credential is a text
that presents the token. It is refused for a missing credential exactly if there is none, for another token exactly if the
first one is a text of the scheme that does not present the token, and for its form in every other case. What one token
opens, no other one does. -/
theorem check_exact (htoken : IsToken token) (hpath : Probe.isExempt path = false) (headers : Fields) :
    ((Gate.mk (some token)).check path headers = .authorized ↔
        ∃ value text, headers.first? fieldName = some value ∧ value.text? = some text ∧ Presents token text) ∧
      ((Gate.mk (some token)).check path headers = .denied .missing ↔ headers.first? fieldName = none) ∧
      ((Gate.mk (some token)).check path headers = .denied .invalid ↔
        ∃ value text, headers.first? fieldName = some value ∧ value.text? = some text ∧
          scheme <+: Text.trim text ∧ ¬ Presents token text) ∧
      ((Gate.mk (some token)).check path headers = .denied .malformed ↔
        ∃ value, headers.first? fieldName = some value ∧
          ∀ text, value.text? = some text → ¬ scheme <+: Text.trim text) ∧
      ∀ other, IsToken other → other ≠ token → (Gate.mk (some token)).check path headers = .authorized →
        (Gate.mk (some other)).check path headers ≠ .authorized := by
  refine ⟨check_eq_authorized_iff htoken hpath, ?_⟩
  rw [← and_assoc, ← and_assoc]
  constructor
  · have hverdict := verdict_check htoken hpath headers
    generalize (Gate.mk (some token)).check path headers = decision at hverdict ⊢
    -- every verdict answers for all the others as well
    cases hverdict with
    | absent hfirst => simp [hfirst]
    | unreadable hfirst htext => simp [hfirst, htext]
    | foreign hfirst htext hscheme => simp [hfirst, htext, hscheme]
    | other hfirst htext hscheme hnot => simp [hfirst, htext, hscheme, hnot]
    | right hfirst htext hpresents => simp [hfirst, htext, hpresents, hpresents.isPrefix htoken]
  · intro other hother hne hopen hopen'
    obtain ⟨value, text, hfirst, htext, hpresents⟩ := (check_eq_authorized_iff htoken hpath).mp hopen
    obtain ⟨value', text', hfirst', htext', hpresents'⟩ := (check_eq_authorized_iff hother hpath).mp hopen'
    cases hfirst.symm.trans hfirst'
    cases htext.symm.trans htext'
    exact hne (hpresents'.token_eq hother htoken hpresents)

/-- A request with two credentials, of which the first one presents a token that itself looks like a credential. -/
def nested : Fields :=
  [⟨fieldName, .ofText "\tBearer  Bearer 1 "⟩, ⟨fieldName, .ofText "Bearer 1"⟩]

/-- The request passes the gate of that token, and not the gate of the token within it. -/
theorem check_exact_nested :
    IsToken "Bearer 1".toList ∧ IsToken "1".toList ∧ Probe.isExempt "/api".toList = false ∧
      (Gate.mk (some "Bearer 1".toList)).check "/api".toList nested = .authorized ∧
      (Gate.mk (some "1".toList)).check "/api".toList nested ≠ .authorized := by
  have hlong : IsToken "Bearer 1".toList := ⟨by decide, by decide⟩
  have hshort : IsToken "1".toList := ⟨by decide, by decide⟩
  have hpath : Probe.isExempt "/api".toList = false := by decide
  have hpresents : Presents "Bearer 1".toList "\tBearer  Bearer 1 ".toList :=
    ⟨['\t'], [' '], [' '], by simp [IsSpacing], by simp [IsSpacing], by simp [IsSpacing], rfl⟩
  have hfirst : nested.first? fieldName = some (.ofText "\tBearer  Bearer 1 ") := by decide +kernel
  have htext : (FieldValue.ofText "\tBearer  Bearer 1 ").text? = some "\tBearer  Bearer 1 ".toList := by decide +kernel
  obtain ⟨hauthorized, _, _, _, hothers⟩ := check_exact hlong hpath nested
  have hopen := hauthorized.mpr ⟨_, _, hfirst, htext, hpresents⟩
  exact ⟨hlong, hshort, hpath, hopen, hothers _ hshort (by decide) hopen⟩

end ApiGateway.Auth.Gate
