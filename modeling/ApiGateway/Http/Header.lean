import ApiGateway.Text.Blank

/-!
# Header fields

A message carries header fields in order. Names are tokens and are kept in lower case, so that two
names are the same field exactly if they are equal; a value is a sequence of octets, and is *text* if
every octet is a visible ASCII character, a blank or a tab. `values` is the view of the fields by
name: what an operation does to one name it does not do to another (`values_remove_of_ne`,
`values_insert_of_ne`).
-/

namespace ApiGateway.Http

/-- A character of a token: a letter, a digit or one of a few marks. -/
def isTokenChar (c : Char) : Bool :=
  c.isAlphanum || "!#$%&'*+-.^_\u0060|~".toList.contains c

/-- A token: one character of the class or more. -/
def isToken (cs : List Char) : Bool :=
  !cs.isEmpty && cs.all isTokenChar

/-- The octets that a name cannot reach. -/
def nameLimit : Nat := 65536

/-- The name of a field, in lower case. -/
abbrev FieldName := String

/-- The name that a text spells in any case, if it is a token that is short enough. -/
def fieldName? (cs : List Char) : Option FieldName :=
  if isToken cs && cs.length < nameLimit then some (String.ofList (Text.lowerAscii cs)) else none

/-- The value of a field: its octets. -/
structure FieldValue where
  octets : List UInt8
  deriving DecidableEq, Repr, Inhabited

namespace FieldValue

/-- An octet that a value may hold: no control character but the tab. -/
def isAllowed (o : UInt8) : Bool :=
  (32 ≤ o && o != 127) || o == 9

/-- An octet of a textual value. -/
def isTextual (o : UInt8) : Bool :=
  (32 ≤ o && o < 127) || o == 9

/-- The value with the given octets, if each is allowed. -/
def ofOctets? (octets : List UInt8) : Option FieldValue :=
  if octets.all isAllowed then some ⟨octets⟩ else none

/-- The value that holds a text. -/
def ofText (s : String) : FieldValue :=
  ⟨s.toUTF8.toList⟩

/-- The characters of a textual value. -/
def text? (v : FieldValue) : Option (List Char) :=
  if v.octets.all isTextual then some (v.octets.map fun o => Char.ofNat o.toNat) else none

/-- The value that holds the given ASCII characters. -/
def ofAscii (cs : List Char) : FieldValue :=
  ⟨cs.map fun c => UInt8.ofNat c.toNat⟩

end FieldValue

/-- A header field. Its name is in lower case. -/
structure Field where
  name : FieldName
  value : FieldValue
  deriving DecidableEq, Repr, Inhabited

/-- The header fields of a message, in order. -/
abbrev Fields := List Field

namespace Fields

/-- The values of a name, in order. -/
def values (fs : Fields) (name : FieldName) : List FieldValue :=
  (fs.filter fun f => f.name = name).map Field.value

/-- The first value of a name. -/
def first? (fs : Fields) (name : FieldName) : Option FieldValue :=
  (fs.values name).head?

/-- Holds if the name occurs. -/
def has (fs : Fields) (name : FieldName) : Bool :=
  fs.any fun f => f.name = name

/-- Without the fields of a name. -/
def remove (fs : Fields) (name : FieldName) : Fields :=
  fs.filter fun f => f.name ≠ name

/-- Without the fields whose name has the property. -/
def removeAll (fs : Fields) (p : FieldName → Bool) : Fields :=
  fs.filter fun f => !p f.name

/-- With one more value of a name, after those that it has. -/
def append (fs : Fields) (name : FieldName) (value : FieldValue) : Fields :=
  fs ++ [⟨name, value⟩]

/-- With this value as the only one of the name. -/
def insert (fs : Fields) (name : FieldName) (value : FieldValue) : Fields :=
  (fs.remove name).append name value

/-- The tokens that the textual values of a name list between commas, blanks around them dropped. -/
def listed (fs : Fields) (name : FieldName) : List (List Char) :=
  (((fs.values name).filterMap FieldValue.text?).flatMap (Text.fields ',')).map Text.trim

/-- An appended field has its value after those that the name had, and no other name has one more. -/
theorem values_append (fs : Fields) (name other : FieldName) (value : FieldValue) :
    (fs.append name value).values other =
      fs.values other ++ if name = other then [value] else [] := by
  by_cases h : name = other <;> simp [append, values, h]

/-- A removed name has no value. -/
theorem values_remove_self (fs : Fields) (name : FieldName) : (fs.remove name).values name = [] := by
  simp [remove, values]

/-- Removing a name leaves the values of the others. -/
theorem values_remove_of_ne (fs : Fields) {name other : FieldName} (h : name ≠ other) :
    (fs.remove name).values other = fs.values other := by
  unfold remove values
  rw [List.filter_filter]
  congr 1
  apply List.filter_congr
  intro f _
  by_cases hf : f.name = other
  · simp [hf, Ne.symm h]
  · simp [hf]

/-- An inserted field has its value alone. -/
theorem values_insert_self (fs : Fields) (name : FieldName) (value : FieldValue) :
    (fs.insert name value).values name = [value] := by
  simp [insert, values_append, values_remove_self]

/-- Inserting a field leaves the values of the other names. -/
theorem values_insert_of_ne (fs : Fields) {name other : FieldName} (value : FieldValue)
    (h : name ≠ other) : (fs.insert name value).values other = fs.values other := by
  simp [insert, values_append, values_remove_of_ne fs h, h]

/-- The removed names have no value, and the others have those that they had. -/
theorem values_removeAll (fs : Fields) (p : FieldName → Bool) (name : FieldName) :
    (fs.removeAll p).values name = if p name then [] else fs.values name := by
  unfold removeAll values
  rw [List.filter_filter]
  by_cases hp : p name
  · simp only [hp, if_true, List.map_eq_nil_iff, List.filter_eq_nil_iff]
    intro f _
    by_cases hf : f.name = name <;> simp [hf, hp]
  · simp only [hp, if_false, Bool.false_eq_true]
    congr 1
    apply List.filter_congr
    intro f _
    by_cases hf : f.name = name <;> simp [hf, hp]

end Fields

end ApiGateway.Http
