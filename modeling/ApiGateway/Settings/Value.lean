import ApiGateway.Number.Binary64
import ApiGateway.Settings.Keyed

/-!
# Values of settings

What a settings file or the environment says is a tree of values. `Value.overlay` lays one value over
another: a table goes over a table key by key (`overlayEntries`), and anything else replaces
what was there (`overlay_of_no_table`).
-/

namespace ApiGateway.Settings

/-- A value as it is written. An integer has 64 bits with a sign, and no key is twice in a table. -/
inductive Value where
  | null
  | bool (b : Bool)
  | int (i : Int)
  | float (x : Number.Binary64)
  | text (s : String)
  | list (items : List Value)
  | table (entries : List (String × Value))
  deriving Inhabited

/-- A table of values. -/
abbrev Table := Keyed Value

namespace Value

/-- The entries of a table; other values have none. -/
def entries : Value → Table
  | .table entries => entries
  | _ => []

/-- The items of a list; other values have none. -/
def items : Value → List Value
  | .list items => items
  | _ => []

/-- Holds for tables. -/
def isTable : Value → Bool
  | .table _ => true
  | _ => false

mutual

/-- Lays a value over another one. -/
def overlay (below : Value) : Value → Value
  | .table above => .table (overlayEntries below.entries above)
  | above => above

/-- Lays entries over a table, one after the other. -/
def overlayEntries (below : Table) : Table → Table
  | [] => below
  | (key, value) :: rest =>
    overlayEntries (Keyed.alter key (fun old => (old.getD .null).overlay value) below) rest

end

/-- A value that is no table replaces what was there. -/
theorem overlay_of_no_table {below above : Value} (h : above.isTable = false) :
    below.overlay above = above := by
  unfold overlay
  split
  · simp [isTable] at h
  · rfl

end Value

end ApiGateway.Settings
