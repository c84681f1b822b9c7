/-!
# A place in a text

A cursor stands before what is left of a text and knows its line and column. The text ends at its first
NUL, and each line break is a single character, whichever way it was written.
-/

namespace ApiGateway.Settings.Yaml

/-- A place in a text: what is left, how many characters came before, the line and the column, and whether the line
has had nothing but blanks so far. -/
structure Cursor where
  rest : List Char
  index : Nat := 0
  line : Nat := 0
  column : Nat := 0
  atMargin : Bool := true

/-- Writes every line break as one character. -/
def unifyBreaks : List Char → List Char
  | '\r' :: '\n' :: cs => '\n' :: unifyBreaks cs
  | '\r' :: cs => '\n' :: unifyBreaks cs
  | c :: cs => c :: unifyBreaks cs
  | [] => []

/-! ## Classes of characters -/

/-- Holds for spaces and tabs. -/
def isBlank (c : Char) : Bool :=
  c == ' ' || c == '\t'

/-- Holds for the marks that flow collections are made of. -/
def isFlowMark (c : Char) : Bool :=
  c == ',' || c == '[' || c == ']' || c == '\x7b' || c == '\x7d'

/-- Holds for the characters of names. -/
def isWordChar (c : Char) : Bool :=
  c.isAlphanum || c == '_' || c == '-'

/-- Holds for the characters of tags. -/
def isUriChar (c : Char) : Bool :=
  c.isAlphanum || "-#;/?:@&=+$,_.!~*'()[]%".toList.contains c

/-- Holds for the characters of tags that are not in brackets. -/
def isTagChar (c : Char) : Bool :=
  isUriChar c && !isFlowMark c && c != '!'

/-- Holds for the characters of the names of anchors. -/
def isAnchorChar (c : Char) : Bool :=
  !isBlank c && c != '\n' && c != '\ufeff' && !isFlowMark c

/-- Holds if a word ends before what is left: at a blank, the end of a line or the end. -/
def endsWord : List Char → Bool
  | [] => true
  | c :: _ => isBlank c || c == '\n'

/-- Holds if a line ends before what is left. -/
def endsLine : List Char → Bool
  | [] => true
  | c :: _ => c == '\n'

/-- Holds if three times the mark stand here as a word. -/
def isRule (mark : Char) : List Char → Bool
  | a :: b :: c :: rest => a == mark && b == mark && c == mark && endsWord rest
  | _ => false

namespace Cursor

/-- The beginning of a text. -/
def ofChars (cs : List Char) : Cursor where
  rest := unifyBreaks (cs.takeWhile fun c => c.toNat != 0)

/-- Holds if the next character is `c`. -/
def isAt (at_ : Cursor) (c : Char) : Bool :=
  at_.rest.head? == some c

/-- Moves over a character in a line; a character that is no blank leaves the margin. -/
def move (at_ : Cursor) : Cursor :=
  match at_.rest with
  | [] => at_
  | '\n' :: rest =>
    { rest, index := at_.index + 1, line := at_.line + 1, column := 0, atMargin := true }
  | c :: rest =>
    { rest, index := at_.index + 1, line := at_.line, column := at_.column + 1,
      atMargin := at_.atMargin && isBlank c }

/-- Moves over so many characters. -/
def advance (at_ : Cursor) : Nat → Cursor
  | 0 => at_
  | n + 1 => at_.move.advance n

/-- Moves over the characters with a property. -/
def skipWhile (at_ : Cursor) (p : Char → Bool) : Cursor :=
  at_.advance (at_.rest.takeWhile p).length

/-- The characters with a property that stand here, and the place after them. -/
def span (at_ : Cursor) (p : Char → Bool) : List Char × Cursor :=
  let taken := at_.rest.takeWhile p
  (taken, at_.advance taken.length)

/-- Moves over a comment, up to the end of the line. -/
def skipComment (at_ : Cursor) : Cursor :=
  at_.skipWhile (· != '\n')

/-- Moves over blanks and a comment to the end of the line or to what stands there. A comment needs a
blank before it. The answer says whether there were tabs, and whether there were spaces. -/
def skipToLineEnd? (at_ : Cursor) : Option (Cursor × Bool × Bool) :=
  let (blanks, next) := at_.span isBlank
  if next.isAt '#' then
    if blanks.isEmpty then none
    else some (next.skipComment, blanks.contains '\t', blanks.contains ' ')
  else some (next, blanks.contains '\t', blanks.contains ' ')

/-- Holds if a document begins or ends here. -/
def isAtRule (at_ : Cursor) : Bool :=
  isRule '-' at_.rest || isRule '.' at_.rest

end Cursor

end ApiGateway.Settings.Yaml
