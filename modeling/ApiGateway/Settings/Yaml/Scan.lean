import ApiGateway.Settings.Yaml.Scalar
import ApiGateway.Settings.Yaml.Token

/-!
# The tokens of a text

`tokens?` cuts a text into tokens. A table of lines shows only when the colon after its first key is
met; a place that can turn out to be a key is kept as a `Candidate` until then, and the tokens for the
key are put in at its number. Each block that is open has a level of indentation.
-/

namespace ApiGateway.Settings.Yaml

/-- A place that a key without a mark can begin at: whether it still can be a key and whether it has to be one, the
number of its token, and where it is. -/
structure Candidate where
  possible : Bool := false
  required : Bool := false
  number : Nat := 0
  index : Nat := 0
  line : Nat := 0
  column : Nat := 0

/-- A level of indentation: the indentation outside of it, and whether a block ends with it. -/
structure Level where
  outer : Int
  isBlock : Bool

/-- A text that is being cut into tokens. `tokens` stand with their columns; `candidates` are one for each flow
collection that is open and one for all, `levels` those of the indentation and `bareTables`, for each flow list
that is open, whether it is in a table without marks, all three innermost first. A key can begin where
`keyAllowed`, a colon needs no blank after it at `adjacentAt`, and `inFlowTable` holds if a flow table has been
opened since the last one without marks ended. -/
structure Scan where
  at_ : Cursor
  tokens : Array (Token × Nat) := #[]
  candidates : List Candidate := [{}]
  keyAllowed : Bool := true
  indent : Int := -1
  levels : List Level := []
  flowDepth : Nat := 0
  adjacentAt : Nat := 0
  inFlowTable : Bool := false
  bareTables : List Bool := []

namespace Scan

/-- The place in a text, as it can be moved to. -/
def goTo (s : Scan) (at_ : Cursor) : Scan :=
  { s with at_ }

/-- Adds a token that stands in a column. -/
def push (s : Scan) (t : Token) (column : Nat) : Scan :=
  { s with tokens := s.tokens.push (t, column) }

/-- Puts in a token before the one with the number. -/
def insert (s : Scan) (number : Nat) (t : Token) (column : Nat) : Scan :=
  { s with tokens := s.tokens.insertIdxIfInBounds number (t, column) }

/-- Holds within flow collections. -/
def inFlow (s : Scan) : Bool :=
  0 < s.flowDepth

/-! ## Candidates for keys -/

/-- The innermost candidate. -/
def candidate (s : Scan) : Candidate :=
  s.candidates.headD {}

/-- Puts another candidate in the place of the innermost. -/
def setCandidate (s : Scan) (c : Candidate) : Scan :=
  { s with candidates := c :: s.candidates.tail }

/-- Notes that a key can begin here. -/
def noteCandidate (s : Scan) : Scan :=
  if s.keyAllowed then
    s.setCandidate {
      possible := true
      required := !s.inFlow && s.indent == s.at_.column && s.levels.head?.any (·.isBlock)
      number := s.tokens.size
      index := s.at_.index
      line := s.at_.line
      column := s.at_.column }
  else s

/-- Gives up the innermost candidate, which must not be a key. -/
def dropCandidate? (s : Scan) : Option Scan :=
  let c := s.candidate
  if c.possible && c.required then none else some (s.setCandidate { c with possible := false })

/-- Gives up the candidates that the text has left behind: outside of flow collections a key is on one
line and has at most 1024 characters. -/
def dropStale? (s : Scan) : Option Scan :=
  let isStale := fun (c : Candidate) =>
    c.possible && !s.inFlow && (c.line < s.at_.line || c.index + 1024 < s.at_.index)
  if s.candidates.any fun c => isStale c && c.required then none
  else
    some { s with
      candidates := s.candidates.map fun c => if isStale c then { c with possible := false } else c }

/-! ## Indentation -/

/-- Leaves the levels beyond a column; a block ends with each that has one. -/
def leaveTo (column : Int) : Nat → Scan → Scan
  | 0, s => s
  | fuel + 1, s =>
    if s.inFlow || s.indent ≤ column then s
    else
      match s.levels with
      | [] => s
      | level :: levels =>
        let left := { s with indent := level.outer, levels }
        leaveTo column fuel (if level.isBlock then left.push .blockEnd s.at_.column else left)

/-- Leaves the levels beyond a column. -/
def leave (column : Int) (s : Scan) : Scan :=
  s.leaveTo column s.levels.length

/-- Leaves the innermost levels that no block ends with. -/
def leaveSoft (s : Scan) : Scan :=
  match s.levels.span fun l => !l.isBlock with
  | ([], _) => s
  | (soft, levels) => { s with indent := (soft.getLast?.map (·.outer)).getD s.indent, levels }

/-- Enters a block at a column, unless it is open there already; its token goes to the number. -/
def enter (column : Nat) (number : Nat) (t : Token) (s : Scan) : Scan :=
  if s.inFlow then s
  else
    let s : Scan :=
      match s.levels with
      | level :: levels =>
        if s.indent ≤ column && !level.isBlock then { s with indent := level.outer, levels } else s
      | [] => s
    if s.indent < column then
      { s with indent := column, levels := ⟨s.indent, true⟩ :: s.levels }.insert number t column
    else s

/-- Enters a level one column further in that no block ends with. -/
def enterSoft (s : Scan) : Scan :=
  if !s.inFlow && s.levels.head?.any (·.isBlock) then
    { s with indent := s.indent + 1, levels := ⟨s.indent, false⟩ :: s.levels }
  else s

/-! ## Between tokens -/

/-- Moves over blanks, line breaks and comments to the next token. -/
def skipBetween? : Nat → Scan → Option Scan
  | 0, _ => none
  | fuel + 1, s =>
    match s.at_.rest with
    | [] => some s
    | '\n' :: _ =>
      skipBetween? fuel { s with at_ := s.at_.move, keyAllowed := s.keyAllowed || !s.inFlow }
    | '#' :: _ => skipBetween? fuel (s.goTo s.at_.skipComment)
    | c :: _ =>
      if c == '\t' && !s.levels.isEmpty && s.at_.atMargin && s.at_.column < s.indent then
        match s.at_.skipToLineEnd? with
        | none => none
        | some (next, _) => if endsLine next.rest then skipBetween? fuel (s.goTo next) else none
      else if isBlank c then skipBetween? fuel (s.goTo s.at_.move)
      else some s

/-- Moves to the next token. -/
def toNext? (s : Scan) : Option Scan :=
  s.skipBetween? (s.at_.rest.length + 1)

/-- Moves over blanks and a comment to the end of the line or to what stands there. -/
def toLineEnd? (s : Scan) : Option Scan :=
  s.at_.skipToLineEnd?.map fun (next, _) => s.goTo next

/-! ## Directives and the marks of documents -/

/-- A mark of three characters at the beginning of a line. -/
def documentMark? (s : Scan) (t : Token) : Option Scan := do
  let s ← (s.leave (-1)).dropCandidate?
  return ({ s with keyAllowed := false }.goTo (s.at_.advance 3)).push t s.at_.column

/-- At most nine digits of a version, and the place after them. -/
def afterNumber? (at_ : Cursor) : Option Cursor :=
  let (ds, next) := at_.span Char.isDigit
  if ds.isEmpty || 9 < ds.length then none else some next

/-- A character of a tag that may be escaped octet by octet, and the place after it. -/
def uriChar? (at_ : Cursor) : Option (Char × Cursor) :=
  match at_.rest with
  | '%' :: _ => do
    let octet := fun (k : Nat) => do
      if at_.rest[3 * k]? != some '%' then none
      Number.natOfDigits? 16 [← at_.rest[3 * k + 1]?, ← at_.rest[3 * k + 2]?]
    let lead ← octet 0
    let width ←
      if lead < 0x80 then some 1
      else if lead / 0x20 = 6 then some 2
      else if lead / 0x10 = 14 then some 3
      else if lead / 8 = 30 then some 4
      else none
    let later ← (List.range (width - 1)).mapM fun k => octet (k + 1)
    if later.any fun n => n / 0x40 != 2 then none
    let code := later.foldl (fun code n => code * 0x100 + n) lead
    if code < 0xd800 || (0xe000 ≤ code && code < 0x110000) then
      return (Char.ofNat code, at_.advance (3 * width))
    else none
  | c :: _ => some (c, at_.move)
  | [] => none

/-- The characters of a tag that stand here, and the place after them. -/
def uriChars? (p : Char → Bool) : Nat → Cursor → Option (List Char × Cursor)
  | 0, _ => none
  | fuel + 1, at_ =>
    if at_.rest.head?.any p then do
      let (c, next) ← uriChar? at_
      let (cs, next) ← uriChars? p fuel next
      return (c :: cs, next)
    else some ([], at_)

/-- The handle that stands here, and the place after it. -/
def handle? (at_ : Cursor) : Option (List Char × Cursor) :=
  if at_.isAt '!' then
    let (word, next) := at_.move.span isWordChar
    if next.isAt '!' then some ('!' :: word ++ ['!'], next.move) else some ('!' :: word, next)
  else none

/-- The handle and the meaning in a directive, and the place after them. -/
def tagDirective? (at_ : Cursor) : Option (Token × Cursor) := do
  let (handle, next) ← handle? (at_.skipWhile isBlank)
  if handle.getLast? != some '!' then none
  let next := next.skipWhile isBlank
  let first ← next.rest.head?
  if first != '!' && !isTagChar first then none
  let (lead, next) ← if first == '!' then some ('!', next.move) else uriChar? next
  let (more, next) ← uriChars? isUriChar (next.rest.length + 1) next
  if endsWord next.rest then return (.tagDirective ⟨handle, lead :: more⟩, next) else none

/-- A directive. One that is not known counts as one that gives nothing a meaning. -/
def directive? (s : Scan) : Option Scan := do
  let s ← (s.leave (-1)).dropCandidate?
  let (name, next) := s.at_.move.span isWordChar
  if name.isEmpty || !endsWord next.rest then none
  let (t, next) ←
    if name = "YAML".toList then do
      let next ← afterNumber? (next.skipWhile isBlank)
      if !next.isAt '.' then none
      let next ← afterNumber? next.move
      some (Token.versionDirective, next)
    else if name = "TAG".toList then tagDirective? next
    else some (Token.tagDirective ⟨[], []⟩, next.skipComment)
  let (next, _) ← next.skipToLineEnd?
  if endsLine next.rest then
    return ({ s with keyAllowed := false }.goTo next.move).push t s.at_.column
  else none

/-! ## Collections -/

/-- The beginning of a flow collection. -/
def flowStart? (s : Scan) (t : Token) : Option Scan := do
  let s := s.noteCandidate.enterSoft
  if 255 ≤ s.flowDepth then none
  let s := { s with
    candidates := {} :: s.candidates
    flowDepth := s.flowDepth + 1
    keyAllowed := true
    inFlowTable := s.inFlowTable || t == Token.flowTableStart
    bareTables := if t == Token.flowListStart then false :: s.bareTables else s.bareTables }
  let column := s.at_.column
  return (← (s.goTo s.at_.move).toLineEnd?).push t column

/-- Ends a table without marks in a flow list. -/
def endBareTable (s : Scan) : Scan :=
  match s.bareTables with
  | true :: rest =>
    { s with inFlowTable := false, bareTables := false :: rest }.push .flowTableEnd s.at_.column
  | _ => s

/-- The end of a flow collection. -/
def flowEnd? (s : Scan) (t : Token) : Option Scan := do
  let s ← s.dropCandidate?
  let s :=
    if s.inFlow then { s with flowDepth := s.flowDepth - 1, candidates := s.candidates.tail } else s
  let s := { s with keyAllowed := false }
  let s :=
    if t == Token.flowListEnd then
      let s := s.endBareTable
      { s with bareTables := s.bareTables.tail }
    else s
  let column := s.at_.column
  let s ← (s.goTo s.at_.move).toLineEnd?
  let s := if s.inFlow then { s with adjacentAt := s.at_.index } else s
  return s.push t column

/-- A comma. -/
def flowEntry? (s : Scan) : Option Scan := do
  let s ← s.dropCandidate?
  let s := { s with keyAllowed := true }.endBareTable
  let column := s.at_.column
  return (← (s.goTo s.at_.move).toLineEnd?).push .flowEntry column

/-- The hyphen before an item. -/
def blockEntry? (s : Scan) : Option Scan := do
  if s.inFlow || !s.keyAllowed then none
  let column := s.at_.column
  let misplaced :=
    s.tokens.back?.any fun (t, c) => t.isProperty && c == 0 && column == 0 && -1 < s.indent
  if misplaced then none
  let s := (s.goTo s.at_.move).enter column s.tokens.size .blockListStart
  let (next, tabs, _) ← s.at_.skipToLineEnd?
  if tabs && next.isAt '-' && endsWord next.rest.tail then none
  let s := s.goTo next
  let s := if next.rest.head?.any fun c => c == '\n' || isFlowMark c then s.enterSoft else s
  let s ← s.dropCandidate?
  return { s with keyAllowed := true }.push .blockEntry column

/-- The gap after the mark of a key, in which there are no tabs: the place after it, and whether it is
a gap at all. -/
def keyGap : Nat → Cursor → Bool → Cursor × Bool
  | 0, at_, gap => (at_, gap)
  | fuel + 1, at_, gap =>
    match at_.rest with
    | ' ' :: _ => keyGap fuel at_.move true
    | '\n' :: _ => keyGap fuel at_.move true
    | '#' :: _ => keyGap fuel at_.skipComment gap
    | _ => (at_, gap)

/-- The question mark before a key. -/
def key? (s : Scan) : Option Scan := do
  let column := s.at_.column
  if !s.inFlow && !s.keyAllowed then none
  let s :=
    if s.inFlow then { s with inFlowTable := true }
    else s.enter column s.tokens.size .blockTableStart
  let s ← s.dropCandidate?
  let (next, gap) := keyGap (s.at_.rest.length + 1) s.at_.move false
  if !gap || next.isAt '\t' then none
  return ({ s with keyAllowed := !s.inFlow }.goTo next).push .key column

/-- The colon before a value. -/
def value? (s : Scan) : Option Scan := do
  let c := s.candidate
  let start := s.at_
  let bare := !s.bareTables.isEmpty && !s.inFlowTable
  let s := if bare then { s with bareTables := true :: s.bareTables.tail } else s
  let s := s.goTo s.at_.move
  let s ←
    if s.at_.isAt '\t' then do
      let (next, _, spaces) ← s.at_.skipToLineEnd?
      if !spaces && (next.rest.head?.any fun c => c == '-' || isWordChar c) then none
      some (s.goTo next)
    else some s
  let column := s.at_.column
  if c.possible then
    let s := s.insert c.number .key c.column
    if bare && c.line < start.line then none
    let s := if bare then s.insert c.number .flowTableStart column else s
    let s := (s.enter c.column c.number .blockTableStart).enterSoft
    let s := s.setCandidate { s.candidate with possible := false }
    return { s with keyAllowed := false }.push .value start.column
  else
    let s := if bare then s.push .flowTableStart column else s
    if !s.inFlow && !s.keyAllowed then none
    let s := (s.enter start.column s.tokens.size .blockTableStart).enterSoft
    return { s with keyAllowed := !s.inFlow }.push .value start.column

/-! ## Nodes -/

/-- An anchor, or a reference to one. -/
def anchor? (s : Scan) (isAlias : Bool) : Option Scan :=
  let s := s.noteCandidate
  let (name, next) := s.at_.move.span isAnchorChar
  if name.isEmpty then none
  else
    let t := if isAlias then Token.alias name else Token.anchor name
    some (({ s with keyAllowed := false }.goTo next).push t s.at_.column)

/-- The tag that stands here, and the place after it. -/
def tagAt? (at_ : Cursor) : Option (Tag × Cursor) := do
  if at_.rest[1]? == some '<' then
    let next := at_.advance 2
    let (rest, next) ← uriChars? isUriChar (next.rest.length + 1) next
    if next.isAt '>' then return (⟨[], rest⟩, next.move) else none
  else
    let (handle, next) ← handle? at_
    let (rest, next) ← uriChars? isTagChar (next.rest.length + 1) next
    if 2 ≤ handle.length && handle.getLast? == some '!' then
      if rest.isEmpty then none else return (⟨handle, rest⟩, next)
    else
      match handle.tail ++ rest with
      | [] => return (⟨[], ['!']⟩, next)
      | rest => return (⟨['!'], rest⟩, next)

/-- A tag. -/
def tag? (s : Scan) : Option Scan := do
  let s := s.noteCandidate
  let (tag, next) ← tagAt? s.at_
  if endsWord next.rest || (s.inFlow && next.rest.head?.any isFlowMark) then
    return ({ s with keyAllowed := false }.goTo next).push (.tag tag) s.at_.column
  else none

/-- A block of lines. -/
def block? (s : Scan) (literal : Bool) : Option Scan := do
  let s := s.noteCandidate
  let column := s.at_.column
  let s := s.leaveSoft
  let (text, next) ← Yaml.block? literal s.indent s.at_
  return ({ s with keyAllowed := true }.goTo next).push (.scalar false text) column

/-- A scalar in quotes. -/
def quoted? (s : Scan) (single : Bool) : Option Scan := do
  let s := s.noteCandidate
  let column := s.at_.column
  let (text, next) ← Yaml.quoted? single s.indent s.inFlow s.at_
  let s ← ({ s with keyAllowed := false }.goTo next).toNext?
  return { s with adjacentAt := s.at_.index }.push (.scalar false text) column

/-- A plain scalar. -/
def plain? (s : Scan) : Option Scan := do
  let s := s.noteCandidate
  let column := s.at_.column
  let s := s.leaveSoft
  let (text, next) ← Yaml.plain? (s.indent + 1) s.inFlow s.at_
  return ({ s with keyAllowed := next.atMargin }.goTo next).push (.scalar true text) column

/-! ## All tokens -/

/-- The token that stands here in a line. -/
def token? (s : Scan) : Option Scan :=
  match s.at_.rest with
  | [] => none
  | c :: rest =>
    let ends := endsWord rest
    if c == '[' then s.flowStart? .flowListStart
    else if c == '\x7b' then s.flowStart? .flowTableStart
    else if c == ']' then s.flowEnd? .flowListEnd
    else if c == '\x7d' then s.flowEnd? .flowTableEnd
    else if c == ',' then s.flowEntry?
    else if c == '-' && ends then s.blockEntry?
    else if c == '?' && ends then s.key?
    else if c == ':' &&
        (ends || (s.inFlow && (rest.head?.any isFlowMark || s.at_.index == s.adjacentAt))) then
      s.value?
    else if c == '*' then s.anchor? true
    else if c == '&' then s.anchor? false
    else if c == '!' then s.tag?
    else if c == '|' && !s.inFlow then s.block? true
    else if c == '>' && !s.inFlow then s.block? false
    else if c == '\'' then s.quoted? true
    else if c == '"' then s.quoted? false
    else if c == '%' || c == '@' || c == '\u0060' then none
    else s.plain?

/-- Reads the token that stands here. -/
def line? (s : Scan) : Option Scan := do
  if s.at_.column = 0 then
    if s.at_.isAt '%' then return ← s.directive?
    if isRule '-' s.at_.rest then return ← s.documentMark? .documentStart
    if isRule '.' s.at_.rest then
      let s ← (← s.documentMark? .documentEnd).toLineEnd?
      if endsLine s.at_.rest then return s else none
  if s.at_.column < s.indent then none
  s.token?

/-- Ends the blocks that are open at the end of the text. -/
def finish? (s : Scan) : Option Scan :=
  if s.candidates.any fun c => c.possible && c.required then none else some (s.leave (-1))

/-- Reads all tokens that are left. -/
def run? : Nat → Scan → Option Scan
  | 0, _ => none
  | fuel + 1, s => do
    let s ← (← s.toNext?).dropStale?
    if s.at_.rest.isEmpty then s.finish? else run? fuel (← (s.leave s.at_.column).line?)

end Scan

/-- The tokens of a text, if it can be cut into tokens. -/
def tokens? (cs : List Char) : Option (List Token) := do
  let start := Cursor.ofChars cs
  let s ← Scan.run? (start.rest.length + 2) { at_ := start }
  return s.tokens.toList.map (·.1)

end ApiGateway.Settings.Yaml
