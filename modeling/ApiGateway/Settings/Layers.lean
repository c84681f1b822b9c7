import ApiGateway.Number.Literal
import ApiGateway.Settings.KeyPath
import ApiGateway.Text.LowerCase

/-!
# Layers of settings

Settings are laid in layers, a file first and the environment over it. A layer sets keys, and a later
layer wins key by key: `get?_set_self` and `get?_set_of_ne` say what is there after a plain key is set.
Each key remembers where a message about its value has to point.
-/

namespace ApiGateway.Settings

/-- Where a value was set: in the environment, or in a file. -/
inductive Origin where
  | environment
  | file (name : String)
  deriving DecidableEq, Repr

namespace Origin

/-- How a message names the origin. -/
def name : Origin → String
  | .environment => "the environment"
  | .file name => name

end Origin

/-- What is set for a key, and where. A table may come from several places and has no origin. -/
structure Entry where
  value : Value
  origin : Option Origin
  deriving Inhabited

/-- What is set, key by key. -/
abbrev Layers := Keyed Entry

namespace Entry

/-- What a key has that is not set. -/
def missing : Entry := ⟨.null, none⟩

/-- Puts a value over the entry at the end of the steps. -/
def set (origin : Origin) (value : Value) (steps : List KeyPath.Step) (old : Entry) : Entry :=
  let change := fun below => Value.overlay below value
  match steps with
  | [] => ⟨change old.value, if value.isTable then none else some origin⟩
  | .key _ :: _ => ⟨KeyPath.alter change steps old.value, none⟩
  | .item _ :: _ =>
    ⟨KeyPath.alter change steps old.value,
      match old.value with
      | .list _ => old.origin
      | _ => none⟩

end Entry

namespace Layers

/-- Sets the value of a key, which may be a path. -/
def set (origin : Origin) (layers : Layers) (setting : String × Value) : Layers :=
  let path := KeyPath.ofKey setting.1
  layers.alter path.root fun old => (old.getD .missing).set origin setting.2 path.steps

/-- Lays a table over what is set. -/
def add (origin : Origin) (layers : Layers) (table : Table) : Layers :=
  table.foldl (set origin) layers

/-- Setting a key that leads nowhere else replaces what it had, unless the value is a table. -/
theorem get?_set_self {key : String} {value : Value} (path : KeyPath.ofKey key = { root := key })
    (leaf : value.isTable = false) (origin : Origin) (layers : Layers) :
    (layers.set origin (key, value)).get? key = some ⟨value, some origin⟩ := by
  simp [set, path, Keyed.get?_alter_self, Entry.set, Value.overlay_of_no_table leaf, leaf]

/-- Setting one key leaves those alone that its path does not begin with. -/
theorem get?_set_of_ne {key other : String} (h : other ≠ (KeyPath.ofKey key).root)
    (origin : Origin) (value : Value) (layers : Layers) :
    (layers.set origin (key, value)).get? other = layers.get? other := by
  simp [set, Keyed.get?_alter_of_ne h]

end Layers

/-! ## The environment -/

/-- What the names of variables for settings begin with, in any case. -/
def variableLead : String := "meridian_"

/-- The key that a variable sets, if it sets one. -/
def keyOfVariable? (name : String) : Option String :=
  (Text.after? variableLead.toList (Text.lowerCase name.toList)).map String.ofList

/-- The value that the text of a variable stands for: a truth value in any case, an integer, a
floating-point number, or else the text itself. -/
def valueOfVariable (text : String) : Value :=
  let cs := text.toList
  let word := Text.lowerCase cs
  if word = "true".toList then .bool true
  else if word = "false".toList then .bool false
  else
    match Number.int64OfText? 10 cs with
    | some i => .int i
    | none =>
      match Number.Binary64.ofText? cs with
      | some x => .float x
      | none => .text text

/-- The settings that variables make. -/
def tableOfVariables (environment : List (String × String)) : Table :=
  environment.filterMap fun (name, text) =>
    (keyOfVariable? name).map fun key => (key, valueOfVariable text)

end ApiGateway.Settings
