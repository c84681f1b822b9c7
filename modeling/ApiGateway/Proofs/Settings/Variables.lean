import ApiGateway.Proofs.Number.Literal
import ApiGateway.Settings.Load

/-!
# Texts from the environment

A setting that is a text need not be the text of its variable. A variable may spell a truth value, an integer or a
floating-point number (`Spells`); the setting is then that value written out, so that `007` becomes `7`. Every other
text is kept as it is (`load_variable`).
-/

namespace ApiGateway.Settings

open Number

/-! ### The settings that are texts -/

/-- The settings that are texts. -/
inductive TextField where
  | listenHost
  | logLevel
  | authToken
  | discoveryNamespace
  | primarySelector
  | analyzerSelector
  | clusterDomain
  | primaryUrl
  | analyzerUrl
  deriving DecidableEq, Repr

namespace TextField

/-- The key of the setting. -/
def key : TextField → String
  | .listenHost => "listen_host"
  | .logLevel => "log_level"
  | .authToken => "auth_token"
  | .discoveryNamespace => "discovery_namespace"
  | .primarySelector => "primary_selector"
  | .analyzerSelector => "analyzer_selector"
  | .clusterDomain => "cluster_domain"
  | .primaryUrl => "primary_url"
  | .analyzerUrl => "analyzer_url"

/-- The name of the variable for the setting. -/
def variableName (f : TextField) : String :=
  "MERIDIAN_" ++ String.ofList (f.key.toList.map Char.toUpper)

/-- The settings with a text for this one. -/
def put (f : TextField) (text : String) (s : Settings) : Settings :=
  match f with
  | .listenHost => { s with listenHost := text }
  | .logLevel => { s with logLevel := text }
  | .authToken => { s with authToken := some text }
  | .discoveryNamespace => { s with discoveryNamespace := text }
  | .primarySelector => { s with primarySelector := text }
  | .analyzerSelector => { s with analyzerSelector := text }
  | .clusterDomain => { s with clusterDomain := text }
  | .primaryUrl => { s with primaryUrl := text }
  | .analyzerUrl => { s with analyzerUrl := some text }

/-- The variable of a text field sets its key. -/
lemma keyOfVariable?_variableName (f : TextField) : keyOfVariable? f.variableName = some f.key := by
  cases f <;> decide +kernel

/-- The key of a text field leads to nothing but itself. -/
lemma ofKey_key (f : TextField) : KeyPath.ofKey f.key = { root := f.key } := by
  cases f <;> decide +kernel

end TextField

/-! ### The values that texts spell -/

/-- The words for truth values. -/
def wordOfTruth (b : Bool) : String :=
  if b then "true" else "false"

/-- The value that a text spells, if it spells one: a truth value in any case, an integer of 64 bits, or else a
floating-point number. -/
inductive Spells (text : String) : Value → Prop where
  | truth (b : Bool) (h : Text.lowerCase text.toList = (wordOfTruth b).toList) : Spells text (.bool b)
  | integer {i : Int} (h : int64OfText? 10 text.toList = some i) : Spells text (.int i)
  | number {x : Binary64} (whole : int64OfText? 10 text.toList = none) (h : Binary64.ofText? text.toList = some x) :
    Spells text (.float x)

/-- Characters of numbers are characters of ASCII. -/
lemma toNat_of_isLiteralChar {c : Char} (h : isLiteralChar c = true) : c.toNat < 0x80 := by
  simp only [isLiteralChar, Bool.or_eq_true, beq_iff_eq] at h
  obtain ((h | rfl) | rfl) | rfl := h
  · have hrange := Text.toNat_of_isAlphanum h
    omega
  · decide
  · decide
  · decide

/-- The words for truth values have letters only. -/
lemma isAlpha_of_lowerCase_eq {cs : List Char} {b : Bool} (h : Text.lowerCase cs = (wordOfTruth b).toList) {c : Char}
    (hc : c ∈ cs) (hascii : c.toNat < 0x80) : c.isAlpha = true := by
  have hlower : c.toLower ∈ (wordOfTruth b).toList := by
    rw [← h]
    refine List.mem_flatMap.mpr ⟨c, hc, ?_⟩
    rw [Text.lowerChar_of_ascii hascii]
    exact List.mem_singleton.mpr rfl
  have hletters : ∀ c ∈ (wordOfTruth b).toList, c.isAlpha = true := by
    cases b
    · simp [wordOfTruth]
    · simp [wordOfTruth]
  exact (Char.isAlpha_toLower_eq_isAlpha c).symm.trans (hletters _ hlower)

/-- No integer is a truth value. -/
lemma lowerCase_ne_of_int64OfText? {cs : List Char} {i : Int} (h : int64OfText? 10 cs = some i) (b : Bool) :
    Text.lowerCase cs ≠ (wordOfTruth b).toList := by
  intro hword
  obtain ⟨c, hc, hnot⟩ := exists_mem_of_int64OfText? h
  have hascii := toNat_of_isLiteralChar (isLiteralChar_of_int64OfText? h c hc)
  exact Bool.false_ne_true (hnot.symm.trans (isAlpha_of_lowerCase_eq hword hc hascii))

/-- No floating-point number is a truth value. -/
lemma lowerCase_ne_of_ofText? {cs : List Char} {x : Binary64} (h : Binary64.ofText? cs = some x) (b : Bool) :
    Text.lowerCase cs ≠ (wordOfTruth b).toList := by
  have hascii : ∀ c ∈ cs, c.toNat < 0x80 :=
    fun c hc => toNat_of_isLiteralChar (Binary64.isLiteralChar_of_ofText? h c hc)
  intro hword
  obtain hlower | ⟨c, hc, hnot⟩ := Binary64.isWord_of_ofText? h
  · rw [Binary64.IsWord, ← Text.lowerCase_of_ascii hascii, hword] at hlower
    cases b
    · simp [wordOfTruth] at hlower
    · simp [wordOfTruth] at hlower
  · exact Bool.false_ne_true (hnot.symm.trans (isAlpha_of_lowerCase_eq hword hc (hascii c hc)))

/-- The value of a variable is the one that its text spells. -/
lemma Spells.valueOfVariable_eq {text : String} {v : Value} (h : Spells text v) : valueOfVariable text = v := by
  unfold valueOfVariable
  cases h with
  | truth b h =>
    simp only [h]
    cases b
    · simp [wordOfTruth]
    · simp [wordOfTruth]
  | integer h =>
    have htrue : Text.lowerCase text.toList ≠ "true".toList := lowerCase_ne_of_int64OfText? h true
    have hfalse : Text.lowerCase text.toList ≠ "false".toList := lowerCase_ne_of_int64OfText? h false
    simp only [if_neg htrue, if_neg hfalse, h]
  | number whole h =>
    have htrue : Text.lowerCase text.toList ≠ "true".toList := lowerCase_ne_of_ofText? h true
    have hfalse : Text.lowerCase text.toList ≠ "false".toList := lowerCase_ne_of_ofText? h false
    simp only [if_neg htrue, if_neg hfalse, whole, h]

/-- The value of a variable is the text itself if that spells nothing. -/
lemma spells_or_valueOfVariable_eq (text : String) :
    Spells text (valueOfVariable text) ∨ valueOfVariable text = .text text := by
  unfold valueOfVariable
  simp only
  split
  · exact .inl (.truth true ‹_›)
  · split
    · exact .inl (.truth false ‹_›)
    · split
      · exact .inl (.integer ‹_›)
      · split
        · exact .inl (.number ‹_› ‹_›)
        · exact .inr rfl

/-- A text with an ASCII character that no number has spells nothing, unless it is a letter. -/
lemma not_spells_of_mem {text : String} {c : Char} (hc : c ∈ text.toList) (hascii : c.toNat < 0x80)
    (h : isLiteralChar c = false) (v : Value) : ¬ Spells text v := by
  intro hspells
  cases hspells with
  | truth b hword =>
    have hliteral := isLiteralChar_of_isAlpha (isAlpha_of_lowerCase_eq hword hc hascii)
    exact Bool.false_ne_true (h.symm.trans hliteral)
  | integer hi => exact Bool.false_ne_true (h.symm.trans (isLiteralChar_of_int64OfText? hi c hc))
  | number _ hx => exact Bool.false_ne_true (h.symm.trans (Binary64.isLiteralChar_of_ofText? hx c hc))

/-! ### The settings of one variable -/

section

variable {α : Type} {key other : String} {e : Entry} {read : Entry → Except Fault α} {default a : α}

/-- A field is read from its own entry. -/
lemma field_self (h : read e = .ok a) : field [(key, e)] key read default = .ok a := by
  simp [field, Keyed.get?_cons, h, Except.mapError]

/-- An entry of another key leaves the default. -/
lemma field_of_ne (h : other ≠ key) : field [(key, e)] other read default = .ok default := by
  apply field_of_unset
  rw [Keyed.get?_cons, if_neg h]
  rfl

end

/-- A single entry for a text changes that text alone. -/
lemma ofLayers?_single {f : TextField} {e : Entry} {text : String} (h : e.text = .ok text)
    (hoptional : Entry.optional Entry.text e = .ok (some text)) : ofLayers? [(f.key, e)] = .ok (f.put text {}) := by
  cases f
  all_goals
    unfold ofLayers? TextField.key
    simp (disch := decide) only [field_of_ne, field_self h, field_self hoptional]
    rfl

/-- The value of a variable is no table, and it can be written out. -/
lemma exists_text_valueOfVariable (text : String) (origin : Option Origin) :
    (valueOfVariable text).isTable = false ∧
    ∃ read, Entry.text ⟨valueOfVariable text, origin⟩ = .ok read ∧
      Entry.optional Entry.text ⟨valueOfVariable text, origin⟩ = .ok (some read) := by
  obtain hspells | htext := spells_or_valueOfVariable_eq text
  · generalize valueOfVariable text = v at hspells ⊢
    cases hspells with
    | truth b h => exact ⟨rfl, _, rfl, rfl⟩
    | integer h => exact ⟨rfl, _, rfl, rfl⟩
    | number whole h => exact ⟨rfl, _, rfl, rfl⟩
  · rw [htext]
    exact ⟨rfl, text, rfl, rfl⟩

/-- One variable makes one entry. -/
lemma add_tableOfVariables_single (f : TextField) (text : String) :
    Layers.add .environment [] (tableOfVariables [(f.variableName, text)]) =
      [(f.key, ⟨valueOfVariable text, some .environment⟩)] := by
  obtain ⟨hleaf, _⟩ := exists_text_valueOfVariable text none
  have htable : tableOfVariables [(f.variableName, text)] = [(f.key, valueOfVariable text)] := by
    simp [tableOfVariables, f.keyOfVariable?_variableName]
  simp [htable, Layers.add, Layers.set, f.ofKey_key, Keyed.alter, Entry.set, Value.overlay_of_no_table hleaf, hleaf]

/-- The settings that one variable makes have its value written out. -/
lemma exists_load_single (f : TextField) (d : Directory) (text : String) :
    ∃ read, load d none [(f.variableName, text)] = .ok (f.put read {}) ∧
      Entry.text ⟨valueOfVariable text, some .environment⟩ = .ok read := by
  obtain ⟨_, read, hread, hoptional⟩ := exists_text_valueOfVariable text (some .environment)
  refine ⟨read, ?_, hread⟩
  have hsources : ofSources? none [(f.variableName, text)] = .ok (f.put read {}) := by
    have hlayers := ofLayers?_single (f := f) hread hoptional
    rwa [← add_tableOfVariables_single] at hlayers
  have hfile : source? d none = .ok none := rfl
  rw [load, hfile]
  simp only [bind, Except.bind, hsources, Except.mapError]

/-! ### What becomes of a text -/

/-- A setting that is a text is loaded from its variable alone, all others having their defaults. It is the value that
the text spells, written out: it is the text itself just if that value is written so. In particular the text is kept if
it spells nothing, if it has an ASCII character other than letters, digits, signs and the point, and if it is an integer
of 64 bits as integers are written. -/
theorem load_variable (f : TextField) (d : Directory) (text : String) :
    ∃ read, load d none [(f.variableName, text)] = .ok (f.put read {}) ∧
      (∀ v, Spells text v → Entry.text ⟨v, some .environment⟩ = .ok read) ∧
      (read = text ↔ ∀ v, Spells text v → Entry.text ⟨v, some .environment⟩ = .ok text) ∧
      ((∃ c ∈ text.toList, c.toNat < 0x80 ∧ isLiteralChar c = false) → read = text) ∧
      ∀ i, fitsInt64 i = true → text = intText i → read = text := by
  obtain ⟨read, hload, hread⟩ := exists_load_single f d text
  have hspelled : ∀ v, Spells text v → Entry.text ⟨v, some .environment⟩ = .ok read := by
    intro v hspells
    rw [← hspells.valueOfVariable_eq, hread]
  have hkept : read = text ↔ ∀ v, Spells text v → Entry.text ⟨v, some .environment⟩ = .ok text := by
    constructor
    · intro heq v hspells
      rw [hspelled v hspells, heq]
    · intro h
      obtain hspells | htext := spells_or_valueOfVariable_eq text
      · exact Except.ok.inj (hread.symm.trans (h _ hspells))
      · rw [htext] at hread
        exact (Except.ok.inj hread).symm
  refine ⟨read, hload, hspelled, hkept, ?_, ?_⟩
  · rintro ⟨c, hc, hascii, hliteral⟩
    exact hkept.mpr fun v hspells => absurd hspells (not_spells_of_mem hc hascii hliteral v)
  · rintro i hfits rfl
    have hspells : Spells (intText i) (.int i) := .integer (int64OfText?_intText hfits)
    exact (Except.ok.inj (hspelled _ hspells)).symm

/-- A token of digits is not kept. -/
theorem load_variable_rewrites :
    ¬ ∀ (f : TextField) (d : Directory) (text : String),
      load d none [(f.variableName, text)] = .ok (f.put text {}) := by
  intro h
  obtain ⟨read, hload, hread⟩ := exists_load_single .authToken [] "007"
  have hspells : Spells "007" (.int 7) := .integer (by decide +kernel)
  rw [hspells.valueOfVariable_eq] at hread
  have htext : (Except.ok "7" : Except Fault String) = .ok read := hread
  cases htext
  have hput := Except.ok.inj (hload.symm.trans (h .authToken [] "007"))
  have htoken : some "7" = some "007" := congrArg Settings.authToken hput
  exact absurd htoken (by decide)

end ApiGateway.Settings
