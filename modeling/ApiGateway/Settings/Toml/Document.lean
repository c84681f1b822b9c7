import ApiGateway.Settings.Toml.Atom
import ApiGateway.Settings.Toml.Tree

/-!
# Settings in TOML

Reads a document line by line: a header opens a table, `key = value` sets a key of it. Lists and inline
tables may be nested at most 80 deep; lines, comments and a comma at the end are allowed within either.
Line breaks are single characters here, whichever way they were written.
-/

namespace ApiGateway.Settings.Toml

/-- Writes every line break as one character. -/
def unifyBreaks : List Char → List Char
  | '\r' :: '\n' :: cs => '\n' :: unifyBreaks cs
  | c :: cs => c :: unifyBreaks cs
  | [] => []

/-- Drops spaces and tabs. -/
def dropGap (cs : List Char) : List Char :=
  cs.dropWhile fun c => c == ' ' || c == '\t'

/-- Holds for characters that may stand in a line as they are. -/
def isShown (c : Char) : Bool :=
  c == '\t' || (0x20 ≤ c.toNat && c.toNat != 0x7f)

/-- What follows a comment, if one stands here. -/
def afterComment? : List Char → Option (List Char)
  | '#' :: cs =>
    let (comment, rest) := cs.span (· != '\n')
    if comment.all isShown then some rest else none
  | cs => some cs

/-- What follows the end of the line. -/
def afterLine? (cs : List Char) : Option (List Char) := do
  match ← afterComment? (dropGap cs) with
  | [] => return []
  | '\n' :: rest => return rest
  | _ => none

/-- What follows blanks, comments and the ends of lines. -/
def afterLines? : Nat → List Char → Option (List Char)
  | 0, _ => none
  | fuel + 1, cs => do
    match ← afterComment? (dropGap cs) with
    | '\n' :: rest => afterLines? fuel rest
    | rest => return rest

/-! ## Texts -/

/-- The character of a code point in hexadecimal. -/
def charOfHex? (ds : List Char) : Option Char := do
  let n ← Number.natOfDigits? 16 ds
  if n < 0xd800 || (0xe000 ≤ n && n < 0x110000) then return Char.ofNat n else none

/-- The character of an escape after its backslash, and what follows it. -/
def escape? : List Char → Option (Char × List Char)
  | 'b' :: rest => some ('\x08', rest)
  | 't' :: rest => some ('\t', rest)
  | 'n' :: rest => some ('\n', rest)
  | 'f' :: rest => some ('\x0c', rest)
  | 'r' :: rest => some ('\r', rest)
  | 'e' :: rest => some ('\x1b', rest)
  | '"' :: rest => some ('"', rest)
  | '\\' :: rest => some ('\\', rest)
  | 'x' :: rest =>
    if rest.length < 2 then none else (charOfHex? (rest.take 2)).map (·, rest.drop 2)
  | 'u' :: rest =>
    if rest.length < 4 then none else (charOfHex? (rest.take 4)).map (·, rest.drop 4)
  | 'U' :: rest =>
    if rest.length < 8 then none else (charOfHex? (rest.take 8)).map (·, rest.drop 8)
  | _ => none

/-- The rest of a text on one line with escapes, and what follows its quote. -/
def basicText? : Nat → List Char → Option (List Char × List Char)
  | 0, _ => none
  | _ + 1, '"' :: rest => some ([], rest)
  | fuel + 1, '\\' :: rest => do
    let (c, rest) ← escape? rest
    let (cs, rest) ← basicText? fuel rest
    return (c :: cs, rest)
  | fuel + 1, c :: rest => do
    if !isShown c then none
    let (cs, rest) ← basicText? fuel rest
    return (c :: cs, rest)
  | _ + 1, [] => none

/-- The rest of a text on one line without escapes, and what follows its quote. -/
def literalText? (cs : List Char) : Option (List Char × List Char) :=
  match cs.span (· != '\'') with
  | (text, '\'' :: rest) => if text.all isShown then some (text, rest) else none
  | _ => none

/-- The end of a text between three quotes: up to two quotes before it belong to the text. -/
def tripleEnd? (quote : Char) (cs : List Char) : Option (List Char × List Char) :=
  let run := (cs.takeWhile (· == quote)).length
  if run < 3 then none
  else
    let kept := min (run - 3) 2
    some (List.replicate kept quote, cs.drop (kept + 3))

/-- What follows a backslash at the end of a line: the next character that is no blank. -/
def afterFold? (cs : List Char) : Option (List Char) :=
  match dropGap cs with
  | '\n' :: rest => some (rest.dropWhile fun c => c == ' ' || c == '\t' || c == '\n')
  | _ => none

/-- The rest of a text between three quotes, and what follows them. -/
def longText? (quote : Char) (escapes : Bool) : Nat → List Char → Option (List Char × List Char)
  | 0, _ => none
  | _ + 1, [] => none
  | fuel + 1, c :: rest =>
    match tripleEnd? quote (c :: rest) with
    | some done => some done
    | none =>
      if escapes && c == '\\' then
        match afterFold? rest with
        | some rest => longText? quote escapes fuel rest
        | none => do
          let (c, rest) ← escape? rest
          let (cs, rest) ← longText? quote escapes fuel rest
          return (c :: cs, rest)
      else if isShown c || c == '\n' then do
        let (cs, rest) ← longText? quote escapes fuel rest
        return (c :: cs, rest)
      else none

/-- Drops a line break at the beginning. -/
def dropBreak : List Char → List Char
  | '\n' :: cs => cs
  | cs => cs

/-- The text that stands here, and what follows it. -/
def text? : List Char → Option (List Char × List Char)
  | '"' :: '"' :: '"' :: cs => longText? '"' true (cs.length + 1) (dropBreak cs)
  | '\'' :: '\'' :: '\'' :: cs => longText? '\'' false (cs.length + 1) (dropBreak cs)
  | '"' :: cs => basicText? (cs.length + 1) cs
  | '\'' :: cs => literalText? cs
  | _ => none

/-! ## Keys -/

/-- Holds for the characters of keys without quotes. -/
def isKeyChar (c : Char) : Bool :=
  c.isAlphanum || c == '_' || c == '-'

/-- The name that stands here, and what follows it. -/
def name? : List Char → Option (String × List Char)
  | '"' :: cs => (basicText? (cs.length + 1) cs).map fun (s, rest) => (String.ofList s, rest)
  | '\'' :: cs => (literalText? cs).map fun (s, rest) => (String.ofList s, rest)
  | cs =>
    match cs.span isKeyChar with
    | ([], _) => none
    | (name, rest) => some (String.ofList name, rest)

/-- The names of a key with points between them, and what follows it. -/
def key? : Nat → List Char → Option (List String × List Char)
  | 0, _ => none
  | fuel + 1, cs => do
    let (name, rest) ← name? (dropGap cs)
    match dropGap rest with
    | '.' :: rest => do
      let (names, rest) ← key? fuel rest
      return (name :: names, rest)
    | rest => return ([name], rest)

/-! ## Values -/

mutual

/-- The value that stands here, nested at most `depth` deep, and what follows it. -/
def value? : Nat → Nat → List Char → Option (Value × List Char)
  | 0, _, _ => none
  | fuel + 1, depth, cs =>
    match cs with
    | '[' :: rest =>
      if depth = 0 then none
      else do
        let (items, rest) ← items? fuel (depth - 1) rest
        return (.list items, rest)
    | '{' :: rest =>
      if depth = 0 then none
      else do
        let (forest, rest) ← entries? fuel (depth - 1) [] rest
        return (.table (Forest.toTable forest), rest)
    | '"' :: _ => (text? cs).map fun (s, rest) => (.text (String.ofList s), rest)
    | '\'' :: _ => (text? cs).map fun (s, rest) => (.text (String.ofList s), rest)
    | cs =>
      let (atom, rest) := spanAtom cs
      (atom? atom).map (·, rest)

/-- The items up to the closing bracket, and what follows it. -/
def items? : Nat → Nat → List Char → Option (List Value × List Char)
  | 0, _, _ => none
  | fuel + 1, depth, cs => do
    match ← afterLines? (cs.length + 1) cs with
    | ']' :: rest => return ([], rest)
    | cs => do
      let (v, rest) ← value? fuel depth cs
      match ← afterLines? (rest.length + 1) rest with
      | ']' :: rest => return ([v], rest)
      | ',' :: rest => do
        let (vs, rest) ← items? fuel depth rest
        return (v :: vs, rest)
      | _ => none

/-- The entries up to the closing brace, and what follows it. -/
def entries? : Nat → Nat → Forest → List Char → Option (Forest × List Char)
  | 0, _, _, _ => none
  | fuel + 1, depth, forest, cs => do
    match ← afterLines? (cs.length + 1) cs with
    | '}' :: rest => return (forest, rest)
    | cs => do
      let (names, rest) ← key? (cs.length + 1) cs
      match rest with
      | '=' :: rest => do
        let (v, rest) ← value? fuel depth (dropGap rest)
        let forest ← forest.assign? v names
        match ← afterLines? (rest.length + 1) rest with
        | '}' :: rest => return (forest, rest)
        | ',' :: rest => entries? fuel depth forest rest
        | _ => none
      | _ => none

end

/-! ## Lines -/

/-- A document that is being read: what it has so far, and the table that is open. -/
structure Reading where
  forest : Forest := []
  here : List String := []

namespace Reading

/-- Opens a table where a header leads. -/
def header? (r : Reading) (isItem : Bool) (names : List String) : Option Reading := do
  let key ← names.getLast?
  let opened := if isItem then Forest.openItem? key else Forest.openTable? key
  return { forest := ← r.forest.within? opened names.dropLast, here := names }

/-- Reads a line that is not empty, and gives what follows it. -/
def line? (r : Reading) : List Char → Option (Reading × List Char)
  | '[' :: '[' :: cs => do
    let (names, rest) ← key? (cs.length + 1) cs
    match rest with
    | ']' :: ']' :: rest => return (← r.header? true names, ← afterLine? rest)
    | _ => none
  | '[' :: cs => do
    let (names, rest) ← key? (cs.length + 1) cs
    match rest with
    | ']' :: rest => return (← r.header? false names, ← afterLine? rest)
    | _ => none
  | cs => do
    let (names, rest) ← key? (cs.length + 1) cs
    match rest with
    | '=' :: rest => do
      let (v, rest) ← value? (3 * cs.length + 3) 80 (dropGap rest)
      let forest ← r.forest.within? (Forest.assign? v names) r.here
      return ({ r with forest }, ← afterLine? rest)
    | _ => none

/-- Reads the lines that are left. -/
def lines? : Nat → Reading → List Char → Option Reading
  | 0, _, _ => none
  | fuel + 1, r, cs => do
    match ← afterLines? (cs.length + 1) cs with
    | [] => return r
    | cs => do
      let (r, rest) ← r.line? cs
      lines? fuel r rest

end Reading

/-- The table that a document spells. -/
def ofChars? (cs : List Char) : Option Table := do
  let cs := unifyBreaks cs
  let r ← Reading.lines? (cs.length + 1) {} cs
  return Forest.toTable r.forest

end ApiGateway.Settings.Toml
