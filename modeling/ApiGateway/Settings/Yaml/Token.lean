/-!
# Tokens

A document is a row of tokens: marks that open, part and close collections, scalars, and what can stand
before them. Block collections have no marks of their own in the text; their tokens come from the
indentation.
-/

namespace ApiGateway.Settings.Yaml

/-- A tag as it is written: a handle and what follows it. -/
structure Tag where
  handle : List Char
  rest : List Char
  deriving DecidableEq

/-- A token: a directive that gives the version or a handle another meaning; the three hyphens and the three points
around a document; the beginnings of lists and tables of lines and the end of either; brackets and braces, opening
and closing; the hyphen before an item and the comma between items; the signs that a key or its value comes next; a
reference to an anchor, an anchor, a tag; and a scalar, plain or not. -/
inductive Token where
  | versionDirective
  | tagDirective (tag : Tag)
  | documentStart
  | documentEnd
  | blockListStart
  | blockTableStart
  | blockEnd
  | flowListStart
  | flowListEnd
  | flowTableStart
  | flowTableEnd
  | blockEntry
  | flowEntry
  | key
  | value
  | alias (name : List Char)
  | anchor (name : List Char)
  | tag (tag : Tag)
  | scalar (plain : Bool) (text : List Char)
  deriving DecidableEq

namespace Token

/-- Holds for what stands before a node. -/
def isProperty : Token → Bool
  | .anchor _ => true
  | .tag _ => true
  | _ => false

end Token

end ApiGateway.Settings.Yaml
