import ApiGateway.Settings.Value

/-!
# Tables that are being built

A document opens tables by headers and sets keys in them. A table is opened once; a path may lead
through tables that it has only made on its way, but never into a value.
-/

namespace ApiGateway.Settings.Toml

/-- How a table came to be: on the way of a header to another table, on the way of a key in a table, or by its own
header. -/
inductive Tree.Kind where
  | implied
  | dotted
  | opened
  deriving DecidableEq, Repr

/-- What a document has for a key: a value, a table, or a list of tables, the last one first. -/
inductive Tree where
  | value (v : Value)
  | table (kind : Tree.Kind) (entries : List (String × Tree))
  | tables (all : List (List (String × Tree)))

/-- What a document has for its keys. -/
abbrev Forest := Keyed Tree

namespace Forest

/-- Changes the table where a header leads. -/
def within? (change : Forest → Option Forest) : List String → Forest → Option Forest
  | [], forest => change forest
  | key :: keys, forest =>
    forest.alter? key fun
      | none => (within? change keys []).map (.table .implied)
      | some (.table kind entries) => (within? change keys entries).map (.table kind)
      | some (.tables (last :: earlier)) =>
        (within? change keys last).map fun last => .tables (last :: earlier)
      | some _ => none

/-- Opens a table. -/
def openTable? (key : String) (forest : Forest) : Option Forest :=
  forest.alter? key fun
    | none => some (.table .opened [])
    | some (.table .implied entries) => some (.table .opened entries)
    | some _ => none

/-- Opens one more table of a list. -/
def openItem? (key : String) (forest : Forest) : Option Forest :=
  forest.alter? key fun
    | none => some (.tables [[]])
    | some (.tables all) => some (.tables ([] :: all))
    | some _ => none

/-- Sets the value of a key that may lead through tables. -/
def assign? (value : Value) : List String → Forest → Option Forest
  | [], _ => none
  | [key], forest =>
    forest.alter? key fun
      | none => some (.value value)
      | some _ => none
  | key :: keys, forest =>
    forest.alter? key fun
      | none => (assign? value keys []).map (.table .dotted)
      | some (.table .dotted entries) => (assign? value keys entries).map (.table .dotted)
      | some (.table .implied entries) =>
        if keys.length > 1 then (assign? value keys entries).map (.table .implied) else none
      | some (.tables (last :: earlier)) =>
        if keys.length > 1 then
          (assign? value keys last).map fun last => .tables (last :: earlier)
        else none
      | some _ => none

end Forest

mutual

/-- The value that a tree has become. -/
def Tree.toValue : Tree → Value
  | .value v => v
  | .table _ entries => .table (Forest.toTable entries)
  | .tables all => .list (Tree.itemsOf all).reverse

/-- The table that a forest has become. -/
def Forest.toTable : List (String × Tree) → List (String × Value)
  | [] => []
  | (key, tree) :: rest => (key, tree.toValue) :: Forest.toTable rest

/-- The tables of a list. -/
def Tree.itemsOf : List (List (String × Tree)) → List Value
  | [] => []
  | entries :: rest => .table (Forest.toTable entries) :: Tree.itemsOf rest

end

end ApiGateway.Settings.Toml
