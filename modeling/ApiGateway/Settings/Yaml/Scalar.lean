import ApiGateway.Number.Integer
import ApiGateway.Settings.Yaml.Cursor

/-!
# Scalars

A scalar is a text that stands plain, in quotes or as a block of lines. Line breaks within a plain or
quoted scalar are folded: one is a space, and of several all but the first stay.
-/

namespace ApiGateway.Settings.Yaml

/-- A run of blanks and line breaks: the blanks before the first break, and how many breaks there are. -/
structure Gap where
  blanks : List Char := []
  breaks : Nat := 0

namespace Gap

/-- What the run stands for within a text. -/
def folded (g : Gap) : List Char :=
  match g.breaks with
  | 0 => g.blanks
  | 1 => [' ']
  | n + 2 => List.replicate (n + 1) '\n'

end Gap

/-! ## Scalars in quotes -/

/-- The character of a code point in hexadecimal. -/
def charOfHex? (ds : List Char) : Option Char := do
  let n ← Number.natOfDigits? 16 ds
  if n < 0xd800 || (0xe000 ≤ n && n < 0x110000) then return Char.ofNat n else none

/-- What follows a backslash: a character, or how many digits of its code point come next. -/
def escapeOf? : Char → Option (Char ⊕ Nat)
  | '0' => some (.inl '\x00')
  | 'a' => some (.inl '\x07')
  | 'b' => some (.inl '\x08')
  | 't' => some (.inl '\t')
  | '\t' => some (.inl '\t')
  | 'n' => some (.inl '\n')
  | 'v' => some (.inl '\x0b')
  | 'f' => some (.inl '\x0c')
  | 'r' => some (.inl '\r')
  | 'e' => some (.inl '\x1b')
  | ' ' => some (.inl ' ')
  | '"' => some (.inl '"')
  | '/' => some (.inl '/')
  | '\\' => some (.inl '\\')
  | 'N' => some (.inl '\u0085')
  | '_' => some (.inl '\u00a0')
  | 'L' => some (.inl '\u2028')
  | 'P' => some (.inl '\u2029')
  | 'x' => some (.inr 2)
  | 'u' => some (.inr 4)
  | 'U' => some (.inr 8)
  | _ => none

/-- The character of the escape that stands here, and the place after it. -/
def escape? (at_ : Cursor) : Option (Char × Cursor) := do
  match ← at_.rest[1]?.bind escapeOf? with
  | .inl c => return (c, at_.advance 2)
  | .inr width =>
    let at_ := at_.advance 2
    if at_.rest.length < width then none
    return (← charOfHex? (at_.rest.take width), at_.advance width)

/-- The quoted characters up to a blank, a line break or the closing quote, after what was read last
character first. The answer says whether they end with a line break that is escaped. -/
def quotedWord? (single : Bool) :
    Nat → List Char → Cursor → Option (List Char × Cursor × Bool)
  | 0, _, _ => none
  | fuel + 1, read, at_ =>
    match at_.rest with
    | [] => some (read, at_, false)
    | c :: rest =>
      if isBlank c || c == '\n' then some (read, at_, false)
      else if single then
        if c == '\'' then
          if rest.head? == some '\'' then quotedWord? single fuel ('\'' :: read) (at_.advance 2)
          else some (read, at_, false)
        else quotedWord? single fuel (c :: read) at_.move
      else if c == '"' then some (read, at_, false)
      else if c == '\\' then
        if rest.head? == some '\n' then some (read, at_.advance 2, true)
        else
          match escape? at_ with
          | none => none
          | some (c, at_) => quotedWord? single fuel (c :: read) at_
      else quotedWord? single fuel (c :: read) at_.move

/-- The gap that stands here within quotes, and the place after it. -/
def quotedGap? (indent : Int) (escaped : Bool) : Nat → Gap → Cursor → Option (Gap × Cursor)
  | 0, _, _ => none
  | fuel + 1, gap, at_ =>
    match at_.rest with
    | '\n' :: _ => quotedGap? indent escaped fuel { breaks := gap.breaks + 1 } at_.move
    | c :: _ =>
      if isBlank c then
        if escaped || 0 < gap.breaks then
          if c == '\t' && at_.column < indent then none
          else quotedGap? indent escaped fuel gap at_.move
        else quotedGap? indent escaped fuel { gap with blanks := gap.blanks ++ [c] } at_.move
      else some (gap, at_)
    | [] => some (gap, at_)

/-- The rest of a scalar in quotes, after what was read last character first, and the place of the
closing quote. -/
def quotedRest? (single : Bool) (indent : Int) : Nat → List Char → Cursor → Option (List Char × Cursor)
  | 0, _, _ => none
  | fuel + 1, read, at_ => do
    if at_.rest.isEmpty || (at_.column = 0 && at_.isAtRule) || at_.column < indent then none
    let (read, at_, escaped) ← quotedWord? single (at_.rest.length + 1) read at_
    if at_.isAt (if single then '\'' else '"') then return (read.reverse, at_)
    let (gap, at_) ← quotedGap? indent escaped (at_.rest.length + 1) {} at_
    let folded := if escaped then List.replicate gap.breaks '\n' else gap.folded
    quotedRest? single indent fuel (folded.reverse ++ read) at_

/-- The scalar in quotes that stands here, and the place after it. What follows on its line may only be
a comment, a colon if the scalar can be a key, or the next mark of a flow collection. -/
def quoted? (single : Bool) (indent : Int) (inFlow : Bool) (at_ : Cursor) :
    Option (List Char × Cursor) := do
  let (text, close) ← quotedRest? single indent (at_.rest.length + 1) [] at_.move
  let (next, _) ← close.move.skipToLineEnd?
  match next.rest with
  | [] => return (text, next)
  | '\n' :: _ => return (text, next)
  | ':' :: _ => if inFlow || at_.line = next.line then return (text, next) else none
  | c :: _ =>
    if inFlow && (c == ',' || c == '\x7d' || c == ']') then return (text, next) else none

/-! ## Plain scalars -/

/-- Holds if the character before what is left can belong to a plain scalar. -/
def isPlain (inFlow : Bool) : List Char → Bool
  | [] => false
  | c :: rest =>
    if isBlank c || c == '\n' then false
    else if c == ':' && (endsWord rest || (inFlow && rest.head?.any isFlowMark)) then false
    else !(inFlow && isFlowMark c)

/-- The plain characters that stand here, and the place after them. -/
def plainWord (inFlow : Bool) : Nat → Cursor → List Char × Cursor
  | 0, at_ => ([], at_)
  | fuel + 1, at_ =>
    match at_.rest with
    | [] => ([], at_)
    | c :: _ =>
      if isPlain inFlow at_.rest then
        let (cs, next) := plainWord inFlow fuel at_.move
        (c :: cs, next)
      else ([], at_)

/-- The gap that stands here within a plain scalar, and the place after it. A tab may not stand where
the indentation of a line goes, unless the line has nothing else. -/
def plainGap? (indent : Int) : Nat → Gap → Cursor → Option (Gap × Cursor)
  | 0, _, _ => none
  | fuel + 1, gap, at_ =>
    match at_.rest with
    | '\n' :: _ => plainGap? indent fuel { breaks := gap.breaks + 1 } at_.move
    | c :: _ =>
      if isBlank c then
        if !at_.atMargin then
          plainGap? indent fuel { gap with blanks := gap.blanks ++ [c] } at_.move
        else if c == '\t' && at_.column < indent then
          match at_.skipToLineEnd? with
          | none => none
          | some (next, _) => if endsLine next.rest then plainGap? indent fuel gap next else none
        else plainGap? indent fuel gap at_.move
      else some (gap, at_)
    | [] => some (gap, at_)

/-- The rest of a plain scalar after the text and the gap that were read, and the place after it. -/
def plainRest? (indent : Int) (inFlow : Bool) : Nat → List Char → Gap → Cursor →
    Option (List Char × Cursor)
  | 0, _, _, _ => none
  | fuel + 1, text, gap, at_ => do
    if (at_.atMargin && at_.isAtRule) || at_.isAt '#' then return (text, at_)
    if inFlow && at_.isAt '-' && (at_.rest[1]?.any isFlowMark) then none
    let (word, next) := plainWord inFlow (at_.rest.length + 1) at_
    let (text, gap) := if word.isEmpty then (text, gap) else (text ++ gap.folded ++ word, {})
    match next.rest with
    | [] => return (text, next)
    | c :: _ =>
      if isBlank c || c == '\n' then do
        let (gap, next) ← plainGap? indent (next.rest.length + 1) gap next
        if !inFlow && next.column < indent then return (text, next)
        plainRest? indent inFlow fuel text gap next
      else return (text, next)

/-- The plain scalar that stands here, and the place after it. -/
def plain? (indent : Int) (inFlow : Bool) (at_ : Cursor) : Option (List Char × Cursor) := do
  if inFlow && at_.column < indent then none
  let (text, next) ← plainRest? indent inFlow (at_.rest.length + 1) [] {} at_
  if text.isEmpty then none else return (text, next)

/-! ## Blocks of lines -/

/-- What becomes of the line breaks at the end of a block: one stays, none, or all. -/
inductive Chomping where
  | clip
  | strip
  | keep
  deriving DecidableEq

/-- The sign of a chomping. -/
def chompingOf? : Option Char → Option Chomping
  | some '+' => some .keep
  | some '-' => some .strip
  | _ => none

/-- The digit of an indentation. -/
def depthOf? (c : Option Char) : Option Nat :=
  c.bind fun c => if c.isDigit then some (c.toNat - 0x30) else none

/-- The marks after the sign of a block, in either order: its chomping and its indentation, which is not
zero. -/
def blockMarks? (at_ : Cursor) : Option (Chomping × Nat × Cursor) := do
  let first := at_.rest.head?
  let second := at_.rest[1]?
  let (chomping, depth, next) :=
    match chompingOf? first, depthOf? first with
    | some chomping, _ =>
      match depthOf? second with
      | some depth => (chomping, some depth, at_.advance 2)
      | none => (chomping, none, at_.move)
    | none, some depth =>
      match chompingOf? second with
      | some chomping => (chomping, some depth, at_.advance 2)
      | none => (.clip, some depth, at_.move)
    | none, none => (.clip, none, at_)
  if depth = some 0 then none
  return (chomping, depth.getD 0, next)

/-- Moves over empty lines and the indentation of the line after them; counts the line breaks. -/
def skipIndent (indent : Nat) : Nat → Nat → Cursor → Nat × Cursor
  | 0, breaks, at_ => (breaks, at_)
  | fuel + 1, breaks, at_ =>
    let spaces := (at_.rest.takeWhile (· == ' ')).length
    let next := at_.advance (min spaces (indent - at_.column))
    if next.isAt '\n' then skipIndent indent fuel (breaks + 1) next.move else (breaks, next)

/-- Moves over empty lines and the spaces of the line after them; counts the line breaks and gives the
widest indentation. -/
def findIndent : Nat → Nat → Nat → Cursor → Nat × Nat × Cursor
  | 0, widest, breaks, at_ => (widest, breaks, at_)
  | fuel + 1, widest, breaks, at_ =>
    let next := at_.skipWhile (· == ' ')
    let widest := max widest next.column
    if next.isAt '\n' then findIndent fuel widest (breaks + 1) next.move else (widest, breaks, next)

/-- The lines of a block that have been read: the text, whether a line break ended the last one, how many empty
lines followed, and whether the last one began with a blank. -/
structure BlockLines where
  text : List Char := []
  broken : Bool := false
  empty : Nat := 0
  indented : Bool := false

/-- Line breaks. -/
def lineBreaks (n : Nat) : List Char :=
  List.replicate n '\n'

/-- Reads the lines of a block with an indentation. -/
def blockLines (literal : Bool) (indent : Nat) : Nat → BlockLines → Cursor → BlockLines × Cursor
  | 0, lines, at_ => (lines, at_)
  | fuel + 1, lines, at_ =>
    if at_.column != indent || at_.rest.isEmpty || (indent = 0 && isRule '.' at_.rest) then
      (lines, at_)
    else
      let indented := at_.rest.head?.any isBlank
      let between :=
        if !literal && lines.broken && !lines.indented && !indented then
          if lines.empty = 0 then [' '] else lineBreaks lines.empty
        else lineBreaks (lines.broken.toNat + lines.empty)
      let (line, next) := at_.span (· != '\n')
      let text := lines.text ++ between ++ line
      if next.rest.isEmpty then ({ text, indented }, next)
      else
        let (empty, next) := skipIndent indent (next.rest.length + 1) 0 next.move
        blockLines literal indent fuel { text, broken := true, empty, indented } next

/-- The text of a block that has no line. -/
def emptyBlock (chomping : Chomping) (broken sameLine : Bool) (empty : Nat) : List Char :=
  if chomping = .strip || sameLine then []
  else if chomping = .keep && empty != 0 then lineBreaks empty
  else lineBreaks broken.toNat

/-- The block that stands here, within the indentation of what it belongs to, and the place after it. -/
def block? (literal : Bool) (outer : Int) (at_ : Cursor) : Option (List Char × Cursor) := do
  let (chomping, depth, next) ← blockMarks? at_.move
  let (next, _) ← next.skipToLineEnd?
  if !endsLine next.rest then none
  let broken := next.isAt '\n'
  let next := next.move
  if next.isAt '\t' then none
  let (indent, empty, next) :=
    if depth = 0 then
      let (widest, empty, next) := findIndent (next.rest.length + 1) 0 0 next
      let indent := max widest (outer + 1).toNat
      (if 0 < outer then max indent 1 else indent, empty, next)
    else
      let indent := if 0 ≤ outer then outer.toNat + depth else depth
      let (empty, next) := skipIndent indent (next.rest.length + 1) 0 next
      (indent, empty, next)
  if next.rest.isEmpty then
    return (emptyBlock chomping broken (next.line == at_.line) empty, next)
  if next.column < indent && outer < next.column then none
  let (lines, next) := blockLines literal indent (next.rest.length + 1) { empty } next
  let ending :=
    if chomping = .strip then []
    else
      lineBreaks lines.broken.toNat ++
        if next.rest.isEmpty && max indent 1 ≤ next.column then ['\n'] else []
  let kept := if chomping = .keep then lineBreaks lines.empty else []
  return (lines.text ++ ending ++ kept, next)

end ApiGateway.Settings.Yaml
