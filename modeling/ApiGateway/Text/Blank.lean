/-!
# Blank characters, trimming and cutting

Text is handled as a list of characters. `isBlank` is the Unicode property `White_Space`; `trim`
drops blanks at both ends and nothing else (`trim_of_not_blank`), and `fields` cuts a text at every
separator, so that the pieces joined again are the text (`intersperse_fields`).
-/

namespace ApiGateway.Text

/-- The Unicode property `White_Space`: it has 25 members. -/
def isBlank (c : Char) : Bool :=
  let n := c.toNat
  (0x09 ≤ n && n ≤ 0x0d) || n == 0x20 || n == 0x85 || n == 0xa0 || n == 0x1680 ||
    (0x2000 ≤ n && n ≤ 0x200a) || n == 0x2028 || n == 0x2029 || n == 0x202f || n == 0x205f ||
    n == 0x3000

/-- Drops the characters with property `p` at both ends. -/
def strip (p : Char → Bool) (cs : List Char) : List Char :=
  ((cs.dropWhile p).reverse.dropWhile p).reverse

/-- Drops the blanks at both ends. -/
def trim (cs : List Char) : List Char :=
  strip isBlank cs

/-- `trim` on a string. -/
def trimmed (s : String) : String :=
  String.ofList (trim s.toList)

/-- Holds if the text has nothing but blanks. -/
def allBlank (s : String) : Bool :=
  s.toList.all isBlank

/-- What follows `lead` in the text, if the text begins with it. -/
def after? (lead : List Char) : List Char → Option (List Char) :=
  match lead with
  | [] => some
  | l :: lead => fun
    | [] => none
    | c :: cs => if l = c then after? lead cs else none

/-- Cuts a text at every separator; a text without one is a single field. -/
def fields (sep : Char) : List Char → List (List Char)
  | [] => [[]]
  | c :: cs =>
    if c = sep then [] :: fields sep cs
    else
      match fields sep cs with
      | [] => [[c]]
      | f :: fs => (c :: f) :: fs

/-- Cuts a text at every blank and leaves out what is empty. -/
def words (cs : List Char) : List (List Char) :=
  (cs.splitBy fun a b => isBlank a == isBlank b).filter fun w => !w.all isBlank

/-- The ASCII letters in lower case; every other character stays. -/
def lowerAscii (cs : List Char) : List Char :=
  cs.map Char.toLower

/-- `lowerAscii` on a string. -/
def lowered (s : String) : String :=
  String.ofList (lowerAscii s.toList)

/-- Puts `sep` between the texts. -/
def joined (sep : String) : List String → String
  | [] => ""
  | [t] => t
  | t :: ts => t ++ sep ++ joined sep ts

/-- Nothing is dropped from a text whose first character is kept. -/
theorem dropWhile_of_head {p : Char → Bool} {c : Char} {cs : List Char} (h : p c = false) :
    (c :: cs).dropWhile p = c :: cs := by
  simp [List.dropWhile, h]

/-- A text whose ends are no blanks is its own trimmed form. -/
theorem trim_of_not_blank {cs : List Char} (first : ∀ c, cs.head? = some c → isBlank c = false)
    (last : ∀ c, cs.getLast? = some c → isBlank c = false) : trim cs = cs := by
  have h1 : cs.dropWhile isBlank = cs := by
    cases cs with
    | nil => rfl
    | cons c cs => exact dropWhile_of_head (first c rfl)
  unfold trim strip
  rw [h1]
  have h2 : cs.reverse.dropWhile isBlank = cs.reverse := by
    cases h : cs.reverse with
    | nil => rfl
    | cons c rest =>
      refine dropWhile_of_head (last c ?_)
      rw [List.getLast?_eq_head?_reverse, h]
      rfl
  rw [h2, List.reverse_reverse]

/-- What follows the lead is the rest of the text. -/
theorem after?_eq_some_iff {lead cs rest : List Char} : after? lead cs = some rest ↔ cs = lead ++ rest := by
  induction lead generalizing cs with
  | nil => simp [after?]
  | cons l lead ih =>
    cases cs with
    | nil => simp [after?]
    | cons c cs =>
      by_cases h : l = c
      · simp [after?, h, ih]
      · simp [after?, h, Ne.symm h]

/-- There is always a field, if only an empty one. -/
theorem fields_ne_nil (sep : Char) (cs : List Char) : fields sep cs ≠ [] := by
  cases cs with
  | nil => simp [fields]
  | cons c cs =>
    unfold fields
    split
    · simp
    · split <;> simp

/-- Nothing is lost: the fields with the separator between them are the text. -/
theorem intersperse_fields (sep : Char) (cs : List Char) :
    ((fields sep cs).intersperse [sep]).flatten = cs := by
  induction cs with
  | nil => rfl
  | cons c cs ih =>
    have hne := fields_ne_nil sep cs
    unfold fields
    split
    · rename_i h
      cases hf : fields sep cs with
      | nil => exact absurd hf hne
      | cons f fs => rw [hf] at ih; simp [List.intersperse, h, ih]
    · cases hf : fields sep cs with
      | nil => exact absurd hf hne
      | cons f fs =>
        rw [hf] at ih
        cases fs <;> simp_all [List.intersperse]

/-- A field has only characters of the text. -/
theorem mem_of_mem_field {sep c : Char} {cs f : List Char} (hf : f ∈ fields sep cs)
    (hc : c ∈ f) : c ∈ cs := by
  induction cs generalizing f with
  | nil => simp_all [fields]
  | cons d ds ih =>
    unfold fields at hf
    split at hf
    · rcases List.mem_cons.1 hf with rfl | hf
      · simp at hc
      · exact List.mem_cons_of_mem _ (ih hf hc)
    · split at hf
      · simp_all
      · rename_i g gs hg
        rcases List.mem_cons.1 hf with rfl | hf
        · rcases List.mem_cons.1 hc with rfl | hc
          · simp
          · exact List.mem_cons_of_mem _ (ih (hg ▸ List.mem_cons_self) hc)
        · exact List.mem_cons_of_mem _ (ih (hg ▸ List.mem_cons_of_mem _ hf) hc)

end ApiGateway.Text
