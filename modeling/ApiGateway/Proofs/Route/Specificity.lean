import ApiGateway.Route
import Mathlib.Data.List.Infix
import Mathlib.Tactic.Lemma

/-!
# The first rule that matches is the most specific one

`Pattern.Matches` says which paths a pattern matches. Two patterns match a common path only if the text of one begins
the text of the other, so in a table where no text begins a later one (`Descending`) whatever stands after the first
match has a shorter text (`Descending.length_lt_of_find?`). The table of the gateway is of that kind, hence its first
match is its longest one (`rule?_eq_some_iff`). With the paths of the probes, which no rule matches, the names of the
families tell all paths apart (`routes_agree`).
-/

namespace ApiGateway

namespace Probe

/-- No two probes have the same name. -/
lemma name_injective {p q : Probe} (h : p.name = q.name) : p = q := by
  cases p <;> cases q <;> simp [name] at h ⊢

/-- A path is that of a probe exactly if it is the same text. -/
lemma ofPath?_eq_some_iff {path : List Char} {p : Probe} : ofPath? path = some p ↔ path = p.path := by
  constructor
  · intro h
    exact (path_of_ofPath? h).symm
  · rintro rfl
    exact ofPath?_path p

end Probe

namespace Route

/-! ### Patterns -/

/-- The paths that a pattern matches: a text for whole segments has to end at a slash or with the path. -/
inductive Pattern.Matches : Pattern → List Char → Prop
  | leading (t rest : List Char) : Matches (.leading t) (t ++ rest)
  | whole (t : List Char) : Matches (.segments t) t
  | within (t rest : List Char) : Matches (.segments t) (t ++ '/' :: rest)

/-- A path that a pattern matches begins with its text. -/
lemma Pattern.Matches.text_prefix {p : Pattern} {path : List Char} (h : p.Matches path) : p.text <+: path := by
  cases h with
  | leading t rest => exact List.prefix_append t rest
  | whole => exact List.prefix_rfl
  | within t rest => exact List.prefix_append t ('/' :: rest)

/-- What the table accepts for a pattern matches it. -/
lemma Pattern.matches_of_isMatch {p : Pattern} {path : List Char} (h : p.isMatch path = true) : p.Matches path := by
  unfold isMatch at h
  cases hafter : Text.after? p.text path with
  | none => simp [hafter] at h
  | some rest =>
    obtain rfl := Text.after?_eq_some_iff.mp hafter
    cases p with
    | leading t => exact .leading t rest
    | segments t =>
      cases rest with
      | nil =>
        rw [List.append_nil]
        exact .whole t
      | cons c rest =>
        have hc : c = '/' := by simpa [hafter] using h
        subst hc
        exact .within t rest

/-- The table accepts what matches a pattern. -/
lemma Pattern.Matches.isMatch_eq {p : Pattern} {path : List Char} (h : p.Matches path) : p.isMatch path = true := by
  cases h with
  | leading t rest =>
    have hafter : Text.after? t (t ++ rest) = some rest := Text.after?_eq_some_iff.mpr rfl
    simp [isMatch, Pattern.text, hafter]
  | whole =>
    have hafter : Text.after? path path = some [] := Text.after?_eq_some_iff.mpr (List.append_nil path).symm
    simp [isMatch, Pattern.text, hafter]
  | within t rest =>
    have hafter : Text.after? t (t ++ '/' :: rest) = some ('/' :: rest) := Text.after?_eq_some_iff.mpr rfl
    simp [isMatch, Pattern.text, hafter]

/-- The table accepts for a pattern exactly what matches it. -/
lemma Pattern.isMatch_iff {p : Pattern} {path : List Char} : p.isMatch path = true ↔ p.Matches path :=
  ⟨matches_of_isMatch, Matches.isMatch_eq⟩

/-! ### Tables -/

/-- Holds for tables in which no text begins a later one. -/
def Descending (table : List Rule) : Prop :=
  table.Pairwise fun r s => ¬ r.pattern.text <+: s.pattern.text

/-- Of two texts that begin the same path, one that does not begin the other is the longer one. -/
lemma length_lt_of_not_prefix {r s : Rule} {path : List Char} (hr : r.pattern.Matches path)
    (hs : s.pattern.Matches path) (hnot : ¬ r.pattern.text <+: s.pattern.text) :
    s.pattern.text.length < r.pattern.text.length := by
  by_contra hle
  exact hnot (List.prefix_of_prefix_length_le hr.text_prefix hs.text_prefix (Nat.le_of_not_lt hle))

/-- The first rule of a descending table that matches a path has a longer text than every other one that does. -/
lemma Descending.length_lt_of_find? {table : List Rule} (h : Descending table) {path : List Char} {r s : Rule}
    (hr : table.find? (fun r => r.pattern.isMatch path) = some r) (hs : s ∈ table) (hne : s ≠ r)
    (hmatches : s.pattern.Matches path) : s.pattern.text.length < r.pattern.text.length := by
  induction table with
  | nil => cases hs
  | cons first rest ih =>
    obtain ⟨hfirst, hrest⟩ := List.pairwise_cons.mp h
    rw [List.find?_cons] at hr
    cases hmatch : first.pattern.isMatch path with
    | true =>
      rw [hmatch] at hr
      obtain rfl := Option.some.inj hr
      have hs : s ∈ rest := (List.mem_cons.mp hs).resolve_left hne
      exact length_lt_of_not_prefix (Pattern.matches_of_isMatch hmatch) hmatches (hfirst s hs)
    | false =>
      rw [hmatch] at hr
      cases hs with
      | head =>
        rw [hmatches.isMatch_eq] at hmatch
        cases hmatch
      | tail _ hs => exact ih hrest hr hs

/-- No text of the table begins a later one. -/
lemma descending_rules : Descending rules := by
  unfold Descending
  decide

/-- The rule of the table that matches the path with the longest text; no other one matches with a text as long. -/
structure IsLongest (path : List Char) (r : Rule) : Prop where
  mem : r ∈ rules
  isMatch : r.pattern.Matches path
  longest : ∀ s ∈ rules, s ≠ r → s.pattern.Matches path → s.pattern.text.length < r.pattern.text.length

/-- There is no rule for a path exactly if none of the table matches it. -/
lemma rule?_eq_none_iff {path : List Char} : rule? path = none ↔ ∀ r ∈ rules, ¬ r.pattern.Matches path := by
  rw [rule?, List.find?_eq_none]
  simp only [Pattern.isMatch_iff]

/-- The rule for a path is the longest that matches it. -/
lemma isLongest_of_rule? {path : List Char} {r : Rule} (h : rule? path = some r) : IsLongest path r := by
  have hmatch : r.pattern.isMatch path = true := by simpa using List.find?_some h
  exact ⟨List.mem_of_find?_eq_some h, Pattern.matches_of_isMatch hmatch,
    fun _ hs hne hmatches => descending_rules.length_lt_of_find? h hs hne hmatches⟩

/-- The rule for a path is exactly the longest that matches it. -/
lemma rule?_eq_some_iff {path : List Char} {r : Rule} : rule? path = some r ↔ IsLongest path r := by
  constructor
  · exact isLongest_of_rule?
  · intro h
    cases hrule : rule? path with
    | none => exact absurd h.isMatch (rule?_eq_none_iff.mp hrule r h.mem)
    | some s =>
      have hs := isLongest_of_rule? hrule
      by_contra hne
      have hne : s ≠ r := fun hsr => hne (congrArg some hsr)
      have hlt := h.longest s hs.mem hne hs.isMatch
      have hgt := hs.longest r h.mem hne.symm h.isMatch
      omega

/-- A path leads to the backend of the longest rule that matches it. -/
lemma backend?_eq_some_iff {path : List Char} {b : Backend} :
    backend? path = some b ↔ ∃ r, IsLongest path r ∧ r.backend = b := by
  simp only [backend?, Option.map_eq_some_iff, rule?_eq_some_iff]

/-- A path leads to no backend exactly if no rule matches it. -/
lemma backend?_eq_none_iff {path : List Char} :
    backend? path = none ↔ ∀ r ∈ rules, ¬ r.pattern.Matches path := by
  rw [backend?, Option.map_eq_none_iff, rule?_eq_none_iff]

/-- Only the first rule leads to the analyzer, and every path that begins with its text gets to it. -/
lemma backend?_eq_analyzer_iff {path : List Char} :
    backend? path = some .analyzer ↔ "/api/v1/release-analyzer".toList <+: path := by
  constructor
  · intro h
    obtain ⟨r, hr, hbackend⟩ := backend?_eq_some_iff.mp h
    have hrules : ∀ r ∈ rules, r.backend = .analyzer → r.pattern.text = "/api/v1/release-analyzer".toList := by decide
    rw [← hrules r hr.mem hbackend]
    exact hr.isMatch.text_prefix
  · rintro ⟨rest, rfl⟩
    have hmatch := (Pattern.Matches.leading "/api/v1/release-analyzer".toList rest).isMatch_eq
    rw [backend?, rule?, rules, List.find?_cons, hmatch]
    rfl

/-! ### Families of paths -/

/-- No two backends have the same name as a family, and no backend has that of the paths without one. -/
lemma familyName_injective {a b : Option Backend} (h : familyName a = familyName b) : a = b := by
  cases a with
  | none =>
    cases b with
    | none => rfl
    | some b => cases b <;> simp [familyName] at h
  | some a =>
    cases b with
    | none => cases a <;> simp [familyName] at h
    | some b => cases a <;> cases b <;> simp [familyName] at h ⊢

/-- No probe is named as a family of other paths is. -/
lemma name_ne_familyName (p : Probe) (b : Option Backend) : p.name ≠ familyName b := by
  cases b with
  | none => cases p <;> decide
  | some b => cases b <;> cases p <;> decide

/-- The path of a probe is booked under its name. -/
lemma label_probe {path : List Char} {p : Probe} (h : Probe.ofPath? path = some p) : label path = p.name := by
  rw [label, h]

/-- Any other path is booked under the backend that it leads to. -/
lemma label_backend {path : List Char} (h : Probe.ofPath? path = none) : label path = familyName (backend? path) := by
  rw [label, h]

/-- The path of a probe leads to no backend. -/
lemma backend?_probe {path : List Char} {p : Probe} (h : Probe.ofPath? path = some p) : backend? path = none := by
  rw [← Probe.path_of_ofPath? h]
  cases p <;> decide

/-- Nothing else is booked under the name of a probe. -/
lemma label_eq_name_iff {path : List Char} {p : Probe} : label path = p.name ↔ path = p.path := by
  rw [← Probe.ofPath?_eq_some_iff]
  constructor
  · intro h
    cases hpath : Probe.ofPath? path with
    | none =>
      rw [label_backend hpath] at h
      exact absurd h.symm (name_ne_familyName p _)
    | some q =>
      rw [label_probe hpath] at h
      rw [Probe.name_injective h]
  · exact label_probe

/-- Under a family are booked exactly the paths of no probe that lead to its backend. -/
lemma label_eq_familyName_iff {path : List Char} {b : Option Backend} :
    label path = familyName b ↔ Probe.isExempt path = false ∧ backend? path = b := by
  rw [Probe.isExempt_eq]
  cases hpath : Probe.ofPath? path with
  | none =>
    rw [label_backend hpath]
    constructor
    · intro h
      exact ⟨rfl, familyName_injective h⟩
    · rintro ⟨-, rfl⟩
      rfl
  | some p =>
    rw [label_probe hpath]
    constructor
    · intro h
      exact absurd h (name_ne_familyName p b)
    · rintro ⟨h, -⟩
      cases h

/-- Every path is served by the backend of the longest rule that matches it, by none exactly if no rule does, and by
the analyzer exactly if it begins with the text of the analyzer. The name of its family is that of a probe exactly if
the path needs no credential, and then no rule matches it; all other paths have the name of the backend that serves
them, or that of paths which none serves. -/
theorem routes_agree (path : List Char) :
    (∀ b, backend? path = some b ↔ ∃ r, IsLongest path r ∧ r.backend = b) ∧
      (backend? path = none ↔ ∀ r ∈ rules, ¬ r.pattern.Matches path) ∧
      (backend? path = some .analyzer ↔ "/api/v1/release-analyzer".toList <+: path) ∧
      (∀ p : Probe, label path = p.name ↔ path = p.path) ∧
      (label path ∈ ["healthz", "readyz", "metrics"] ↔ Probe.isExempt path = true) ∧
      ¬ (Probe.isExempt path = true ∧ (backend? path).isSome = true) ∧
      ∀ b, label path = familyName b ↔ Probe.isExempt path = false ∧ backend? path = b := by
  refine ⟨fun b => backend?_eq_some_iff, backend?_eq_none_iff, backend?_eq_analyzer_iff, fun p => label_eq_name_iff,
    ?_, ?_, fun b => label_eq_familyName_iff⟩
  · have hnames : ["healthz", "readyz", "metrics"] = Probe.all.map Probe.name := rfl
    rw [hnames, List.mem_map, Probe.isExempt_eq, Option.isSome_iff_exists]
    constructor
    · rintro ⟨p, -, hp⟩
      exact ⟨p, Probe.ofPath?_eq_some_iff.mpr (label_eq_name_iff.mp hp.symm)⟩
    · rintro ⟨p, hp⟩
      exact ⟨p, Probe.mem_all p, (label_probe hp).symm⟩
  · rintro ⟨hexempt, hbackend⟩
    rw [Probe.isExempt_eq, Option.isSome_iff_exists] at hexempt
    obtain ⟨p, hp⟩ := hexempt
    rw [backend?_probe hp] at hbackend
    cases hbackend

end Route

end ApiGateway
