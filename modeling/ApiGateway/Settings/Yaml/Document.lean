import ApiGateway.Settings.Yaml.Node
import ApiGateway.Settings.Yaml.Scan

/-!
# Settings in YAML

Builds the node of a document from its tokens. A text without a document is an empty table, and one
with more than one document is refused. An anchor names its node from where it stands; before the node
is complete a reference to it stands for nothing.
-/

namespace ApiGateway.Settings.Yaml

/-- What is left of a document: the tokens, the anchors so far with their nodes, and what a directive gives a
handle as another meaning. -/
structure Reading where
  tokens : List Token
  anchors : Array (List Char × Node) := #[]
  meaning : Option Tag := none

namespace Reading

/-- Goes on with other tokens. -/
def goTo (r : Reading) (tokens : List Token) : Reading :=
  { r with tokens }

/-- Notes an anchor, the node of which is to come. -/
def note (r : Reading) (name : List Char) : Reading :=
  { r with anchors := r.anchors.push (name, .bad) }

/-- The tag that a tag as it is written stands for. -/
def tag? (r : Reading) (tag : Tag) : Option Tag :=
  match r.meaning.filter fun m => m.handle == tag.handle with
  | some m => some { tag with handle := m.rest }
  | none =>
    if tag.handle = "!!".toList then some { tag with handle := Node.coreHandle }
    else if 2 ≤ tag.handle.length && tag.handle.getLast? == some '!' then none
    else some tag

/-- What stands before a node: the place of its anchor among all, and its tag. -/
structure Properties where
  anchor : Option Nat := none
  tag : Option Tag := none

/-- Reads what stands before a node: an anchor, a tag, or both in either order. -/
def properties? (r : Reading) : Option (Properties × Reading) :=
  let place := some r.anchors.size
  match r.tokens with
  | .anchor name :: .tag tag :: rest => do
    return ({ anchor := place, tag := some (← r.tag? tag) }, (r.note name).goTo rest)
  | .anchor name :: rest => some ({ anchor := place }, (r.note name).goTo rest)
  | .tag tag :: .anchor name :: rest => do
    return ({ anchor := place, tag := some (← r.tag? tag) }, (r.note name).goTo rest)
  | .tag tag :: rest => do
    return ({ tag := some (← r.tag? tag) }, r.goTo rest)
  | _ => some ({}, r)

/-- Gives an anchor its node. -/
def complete (r : Reading) (p : Properties) (n : Node) : Reading :=
  match p.anchor with
  | none => r
  | some place => { r with anchors := r.anchors.modify place fun (name, _) => (name, n) }

/-- The node of the last anchor with the name. -/
def anchored? (r : Reading) (name : List Char) : Option Node :=
  (r.anchors.findRev? fun a => a.1 == name).map (·.2)

/-- Holds if a block has no node here. -/
def blockGap : List Token → Bool
  | .key :: _ => true
  | .value :: _ => true
  | .blockEnd :: _ => true
  | _ => false

/-- Holds if an item has no node here. -/
def itemGap : List Token → Bool
  | .blockEntry :: _ => true
  | .blockEnd :: _ => true
  | _ => false

/-- Holds if a flow table has no node here. -/
def flowGap : List Token → Bool
  | .flowEntry :: _ => true
  | .flowTableEnd :: _ => true
  | .flowListEnd :: _ => true
  | _ => false

mutual

/-- The node that stands here. -/
def node? (block bare : Bool) : Nat → Reading → Option (Node × Reading)
  | 0, _ => none
  | fuel + 1, r =>
    match r.tokens with
    | .alias name :: rest => do
      return (← r.anchored? name, r.goTo rest)
    | _ => do
      let (p, r) ← r.properties?
      let (n, r) ←
        match r.tokens with
        | .scalar plain text :: rest => pure (Node.ofScalar plain p.tag text, r.goTo rest)
        | .flowListStart :: rest => do
          let (items, r) ← flowItems? fuel true (r.goTo rest)
          pure (Node.list items, r)
        | .flowTableStart :: rest => do
          let (nodes, r) ← flowPairs? fuel true (r.goTo rest)
          pure (← Node.tableOf? nodes, r)
        | .blockListStart :: rest => do
          if !block then none
          let (items, r) ← blockItems? fuel (r.goTo rest)
          pure (Node.list items, r)
        | .blockTableStart :: rest => do
          if !block then none
          let (nodes, r) ← blockPairs? fuel (r.goTo rest)
          pure (← Node.tableOf? nodes, r)
        | tokens => do
          if bare && tokens.head? == some .blockEntry then
            let (items, r) ← bareItems? fuel r
            pure (Node.list items, r)
          else if p.anchor.isSome || p.tag.isSome then pure (Node.ofScalar true p.tag [], r)
          else none
      return (n, r.complete p n)

/-- The items of a block. -/
def blockItems? : Nat → Reading → Option (List Node × Reading)
  | 0, _ => none
  | fuel + 1, r =>
    match r.tokens with
    | .blockEnd :: rest => some ([], r.goTo rest)
    | .blockEntry :: rest => do
      let (n, r) ←
        if itemGap rest then pure (Node.null, r.goTo rest) else node? true false fuel (r.goTo rest)
      let (ns, r) ← blockItems? fuel r
      return (n :: ns, r)
    | _ => none

/-- The items of a list that is indented no further than its key. -/
def bareItems? : Nat → Reading → Option (List Node × Reading)
  | 0, _ => none
  | fuel + 1, r =>
    match r.tokens with
    | .blockEntry :: rest => do
      let (n, r) ←
        if itemGap rest || blockGap rest then pure (Node.null, r.goTo rest)
        else node? true false fuel (r.goTo rest)
      let (ns, r) ← bareItems? fuel r
      return (n :: ns, r)
    | _ => some ([], r)

/-- The keys and values of a block. -/
def blockPairs? : Nat → Reading → Option (List Node × Reading)
  | 0, _ => none
  | fuel + 1, r =>
    match r.tokens with
    | .blockEnd :: rest => some ([], r.goTo rest)
    | .key :: rest => do
      let (k, r) ←
        if blockGap rest then pure (Node.null, r.goTo rest) else node? true true fuel (r.goTo rest)
      let (v, r) ← blockValue? fuel r
      let (ns, r) ← blockPairs? fuel r
      return (k :: v :: ns, r)
    | .value :: _ => do
      let (v, r) ← blockValue? fuel r
      let (ns, r) ← blockPairs? fuel r
      return (.null :: v :: ns, r)
    | _ => none

/-- The value of a key in a block. -/
def blockValue? : Nat → Reading → Option (Node × Reading)
  | 0, _ => none
  | fuel + 1, r =>
    match r.tokens with
    | .value :: rest =>
      if blockGap rest then some (.null, r.goTo rest) else node? true true fuel (r.goTo rest)
    | _ => some (.null, r)

/-- The keys and values up to the closing brace. -/
def flowPairs? : Nat → Bool → Reading → Option (List Node × Reading)
  | 0, _, _ => none
  | fuel + 1, first, r => do
    let tokens ←
      match first, r.tokens with
      | true, tokens => some tokens
      | false, .flowEntry :: rest => some rest
      | false, .flowTableEnd :: rest => some (.flowTableEnd :: rest)
      | false, _ => none
    match tokens with
    | .flowTableEnd :: rest => return ([], r.goTo rest)
    | .key :: rest =>
      let (k, r) ←
        if flowGap rest || rest.head? == some .value then pure (Node.null, r.goTo rest)
        else node? false false fuel (r.goTo rest)
      let (v, r) ← flowValue? fuel r
      let (ns, r) ← flowPairs? fuel false r
      return (k :: v :: ns, r)
    | .value :: _ =>
      let (v, r) ← flowValue? fuel (r.goTo tokens)
      let (ns, r) ← flowPairs? fuel false r
      return (.null :: v :: ns, r)
    | _ =>
      let (k, r) ← node? false false fuel (r.goTo tokens)
      let (ns, r) ← flowPairs? fuel false r
      return (k :: .null :: ns, r)

/-- The value of a key in a flow collection. -/
def flowValue? : Nat → Reading → Option (Node × Reading)
  | 0, _ => none
  | fuel + 1, r =>
    match r.tokens with
    | .value :: rest =>
      if flowGap rest then some (.null, r.goTo rest) else node? false false fuel (r.goTo rest)
    | _ => some (.null, r)

/-- The items up to the closing bracket; a key among them makes a table of one entry. -/
def flowItems? : Nat → Bool → Reading → Option (List Node × Reading)
  | 0, _, _ => none
  | fuel + 1, first, r => do
    let tokens ←
      match first, r.tokens with
      | true, tokens => some tokens
      | false, .flowEntry :: rest => some rest
      | false, .flowListEnd :: rest => some (.flowListEnd :: rest)
      | false, _ => none
    match tokens with
    | .flowListEnd :: rest => return ([], r.goTo rest)
    | .key :: rest =>
      let (k, r) ←
        if flowGap rest || rest.head? == some .value then pure (Node.null, r.goTo rest.tail)
        else node? false false fuel (r.goTo rest)
      let (v, r) ← flowValue? fuel r
      let (ns, r) ← flowItems? fuel false r
      return ((← Node.tableOf? [k, v]) :: ns, r)
    | _ =>
      let (n, r) ← node? false false fuel (r.goTo tokens)
      let (ns, r) ← flowItems? fuel false r
      return (n :: ns, r)

end

/-- Reads the directives before a document. The version is given at most once, and of the directives
only the last one counts. -/
def directives? (version : Bool) (r : Reading) : List Token → Option Reading
  | .versionDirective :: rest =>
    if version then none else directives? true { r with meaning := none } rest
  | .tagDirective tag :: rest => directives? version { r with meaning := some tag } rest
  | rest => some (r.goTo rest)

/-- Holds if a document has no node. -/
def isEmptyDocument : List Token → Bool
  | [] => true
  | .versionDirective :: _ => true
  | .tagDirective _ :: _ => true
  | .documentStart :: _ => true
  | .documentEnd :: _ => true
  | _ => false

/-- Drops the marks of the ends of documents. -/
def dropEnds (tokens : List Token) : List Token :=
  tokens.dropWhile (· == .documentEnd)

/-- The node of the only document, if there is one. -/
def document? (tokens : List Token) : Option (Option Node) := do
  let tokens := dropEnds tokens
  let fuel := 4 * tokens.length + 4
  let r ← directives? false { tokens } tokens
  let isMarked := isEmptyDocument tokens
  match tokens, r.tokens with
  | [], _ => return none
  | _, rest => do
    let rest ←
      match isMarked, rest with
      | false, rest => some rest
      | true, .documentStart :: rest => some rest
      | true, _ => none
    let (n, r) ←
      if isMarked && isEmptyDocument rest then pure (Node.null, r.goTo rest)
      else node? true false fuel (r.goTo rest)
    if (dropEnds r.tokens).isEmpty then return some n else none

end Reading

/-- The value that a text spells. -/
def ofChars? (cs : List Char) : Option Value := do
  match ← Reading.document? (← tokens? cs) with
  | none => return .table []
  | some n => n.toValue?

end ApiGateway.Settings.Yaml
