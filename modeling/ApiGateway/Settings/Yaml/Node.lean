import ApiGateway.Number.Literal
import ApiGateway.Settings.Yaml.Token
import ApiGateway.Settings.Value

/-!
# Nodes

A node is what a scalar or a collection of a document stands for. A plain scalar without a tag stands
for a number or a truth value if it is written like one. `Node.toValue?` gives the value of settings:
keys become texts, and a number that is not written as one there is makes it fail.
-/

namespace ApiGateway.Settings.Yaml

/-- A key of a table. A number with a fraction is kept as it is written. -/
inductive Key where
  | text (s : String)
  | int (i : Int)
  | bool (b : Bool)
  | real (s : String)
  | other
  deriving DecidableEq

namespace Key

/-- The text of a key. -/
def name? : Key → Option String
  | .text s => some s
  | .int i => some (Number.intText i)
  | .bool b => some (if b then "true" else "false")
  | .real s => some s
  | .other => none

end Key

/-- What a part of a document stands for. A scalar that is not what its tag says is bad, and a number with a
fraction is kept as it is written. -/
inductive Node where
  | null
  | bad
  | bool (b : Bool)
  | int (i : Int)
  | real (s : String)
  | text (s : String)
  | list (items : List Node)
  | table (entries : List (Key × Node))
  deriving Inhabited

namespace Node

/-! ## Scalars -/

/-- Holds for the names of infinities and of what is no number. -/
def isNamedReal (cs : List Char) : Bool :=
  let names :=
    [".inf", ".Inf", ".INF", "+.inf", "+.Inf", "+.INF", "-.inf", "-.Inf", "-.INF", ".nan", ".NaN", ".NAN"]
  names.any fun name => name.toList = cs

/-- Holds for scalars that are written as a number with a fraction. -/
def isReal (cs : List Char) : Bool :=
  isNamedReal cs || (cs.any Char.isDigit && (Number.Binary64.ofText? cs).isSome)

/-- The integer that a plain scalar is written as, in base 16, 8 or 10. -/
def integer? (cs : List Char) : Option Int :=
  match cs with
  | '0' :: 'x' :: ds => (Number.int64OfText? 16 ds).or (Number.int64OfText? 10 cs)
  | '0' :: 'o' :: ds => (Number.int64OfText? 8 ds).or (Number.int64OfText? 10 cs)
  | '+' :: ds => (Number.int64OfText? 10 ds).or (Number.int64OfText? 10 cs)
  | cs => Number.int64OfText? 10 cs

/-- What a plain scalar without a tag stands for. -/
def ofPlain (cs : List Char) : Node :=
  if cs.isEmpty || cs = ['~'] || cs = "null".toList then .null
  else if cs = "true".toList then .bool true
  else if cs = "false".toList then .bool false
  else
    match integer? cs with
    | some i => .int i
    | none => if isReal cs then .real (String.ofList cs) else .text (String.ofList cs)

/-- The handle of the tags that every document has. -/
def coreHandle : List Char := "tag:yaml.org,2002:".toList

/-- What a plain scalar with a tag stands for. -/
def ofTagged (tag : Tag) (cs : List Char) : Node :=
  let text := Node.text (String.ofList cs)
  if tag.handle != coreHandle then text
  else if tag.rest = "bool".toList then
    if cs = "true".toList then .bool true
    else if cs = "false".toList then .bool false
    else .bad
  else if tag.rest = "int".toList then
    match Number.int64OfText? 10 cs with
    | some i => .int i
    | none => .bad
  else if tag.rest = "float".toList then
    if isReal cs then .real (String.ofList cs) else .bad
  else if tag.rest = "null".toList then
    if cs = ['~'] || cs = "null".toList then .null else .bad
  else text

/-- What a scalar stands for. -/
def ofScalar (plain : Bool) (tag : Option Tag) (cs : List Char) : Node :=
  match plain, tag with
  | false, _ => .text (String.ofList cs)
  | true, some tag => ofTagged tag cs
  | true, none => ofPlain cs

/-! ## Tables -/

/-- The key that a node makes. -/
def key : Node → Key
  | .text s => .text s
  | .int i => .int i
  | .bool b => .bool b
  | .real s => .real s
  | _ => .other

/-- The entries of the nodes of a table, keys and values in turn; no key may be there twice. A bad node
is passed over where a key is expected. -/
def entries? : List (Key × Node) → List Node → Option (List (Key × Node))
  | entries, [] => some entries
  | entries, .bad :: nodes => entries? entries nodes
  | entries, [_] => some entries
  | entries, key :: value :: nodes =>
    if entries.any fun e => e.1 == key.key then none
    else entries? (entries ++ [(key.key, value)]) nodes

/-- The table of the nodes, keys and values in turn. -/
def tableOf? (nodes : List Node) : Option Node :=
  (entries? [] nodes).map .table

mutual

/-- The value of settings that a node stands for. -/
def toValue? : Node → Option Value
  | .null => some .null
  | .bad => some .null
  | .bool b => some (.bool b)
  | .int i => some (.int i)
  | .real s => (Number.Binary64.ofText? s.toList).map .float
  | .text s => some (.text s)
  | .list items => (valuesOf? items).map .list
  | .table entries => (tableValue? [] entries).map .table

/-- The values of items. -/
def valuesOf? : List Node → Option (List Value)
  | [] => some []
  | n :: ns => do
    let v ← toValue? n
    return v :: (← valuesOf? ns)

/-- The table of entries, after those that it has. -/
def tableValue? (t : Table) : List (Key × Node) → Option Table
  | [] => some t
  | (key, n) :: rest => do
    let v ← toValue? n
    tableValue? (t.put (← key.name?) v) rest

end

end Node

end ApiGateway.Settings.Yaml
