import ApiGateway.Text.Blank

/-!
# Request targets

The target of a request is a path with an optional query, an authority alone, or both after a scheme.
`Uri.ofChars?` decides between the forms, checks every character against the class of the part that it
stands in, and drops a fragment; `Uri.chars` writes the target again.
-/

namespace ApiGateway.Http

/-- What stands before the question mark of a target and what stands after it, as they are written. The path of a
target with a scheme may be empty. -/
structure PathAndQuery where
  path : List Char
  query : Option (List Char)
  deriving DecidableEq, Repr, Inhabited

/-- The target of a request: a path and query alone, an authority alone, or all three with a scheme. -/
inductive Uri where
  | relative (target : PathAndQuery)
  | authority (authority : List Char)
  | absolute (scheme authority : List Char) (target : PathAndQuery)
  deriving DecidableEq, Repr, Inhabited

/-- Why a text is no target: it, or its scheme, is longer than it may be; it or its authority is empty; a character
has no place where it stands; the authority is not of its form; or the parts do not make up a target. -/
inductive UriError where
  | tooLong
  | empty
  | invalidCharacter
  | invalidAuthority
  | invalidFormat
  | schemeTooLong
  deriving DecidableEq, Repr

namespace UriError

/-- The message for the error. -/
def message : UriError → String
  | .tooLong => "uri too long"
  | .empty => "empty string"
  | .invalidCharacter => "invalid uri character"
  | .invalidAuthority => "invalid authority"
  | .invalidFormat => "invalid format"
  | .schemeTooLong => "scheme too long"

end UriError

namespace PathAndQuery

/-- A character of a path: no control character, blank or DEL, and none of `#`, `<`, `>`, `?` and the
grave accent. -/
def isPathChar (c : Char) : Bool :=
  let n := c.toNat
  0x21 ≤ n && n != 0x23 && n != 0x3c && n != 0x3e && n != 0x3f && n != 0x60 && n != 0x7f

/-- A character of a query: no control character, blank or DEL, and none of `"`, `#`, `<` and `>`. -/
def isQueryChar (c : Char) : Bool :=
  let n := c.toNat
  0x21 ≤ n && n != 0x22 && n != 0x23 && n != 0x3c && n != 0x3e && n != 0x7f

/-- Reads a path and a query; a fragment after them is dropped unread. -/
def ofChars? (cs : List Char) : Except UriError PathAndQuery :=
  let (path, rest) := cs.span isPathChar
  match rest with
  | [] => .ok ⟨path, none⟩
  | '#' :: _ => .ok ⟨path, none⟩
  | '?' :: rest =>
    let (query, rest) := rest.span isQueryChar
    match rest with
    | [] => .ok ⟨path, some query⟩
    | '#' :: _ => .ok ⟨path, some query⟩
    | _ => .error .invalidCharacter
  | _ => .error .invalidCharacter

/-- The path and the query as they are written. -/
def chars (pq : PathAndQuery) : List Char :=
  match pq.query with
  | none => pq.path
  | some q => pq.path ++ '?' :: q

/-- The path and the query, or a slash if there is nothing. -/
def nonEmptyChars (pq : PathAndQuery) : List Char :=
  if pq.chars.isEmpty then ['/'] else pq.chars

end PathAndQuery

namespace Uri

/-- The octets that a target cannot exceed. -/
def lengthLimit : Nat := 65534

/-- The characters that a scheme cannot exceed. -/
def schemeLimit : Nat := 64

/-- The colons that an authority cannot exceed. -/
def colonLimit : Nat := 8

/-- A character of a scheme. -/
def isSchemeChar (c : Char) : Bool :=
  c.isAlphanum || c == '+' || c == '-' || c == '.' || c == '~'

/-- A character of an authority, the percent sign apart. -/
def isAuthorityChar (c : Char) : Bool :=
  c.isAlphanum || "!$&'()*+,-.:;=@[]_~".toList.contains c

/-- A character that ends an authority. -/
def endsAuthority (c : Char) : Bool :=
  c == '/' || c == '?' || c == '#'

/-- What has been seen of an authority: the colons and a percent sign since the start, the last `@` or the last
`]`; whether a bracket was opened or closed; and whether the last character was an `@`. -/
structure AuthorityScan where
  colons : Nat := 0
  percent : Bool := false
  opened : Bool := false
  closed : Bool := false
  atEnd : Bool := false

/-- Reads one character of an authority. -/
def AuthorityScan.step (s : AuthorityScan) (c : Char) : Except UriError AuthorityScan :=
  let s := { s with atEnd := false }
  if c == ':' then
    if colonLimit ≤ s.colons then .error .invalidAuthority else .ok { s with colons := s.colons + 1 }
  else if c == '[' then
    if s.percent || s.opened then .error .invalidAuthority else .ok { s with opened := true }
  else if c == ']' then
    if !s.opened || s.closed then .error .invalidAuthority
    else .ok { s with closed := true, colons := 0, percent := false }
  else if c == '@' then .ok { s with colons := 0, percent := false, atEnd := true }
  else if c == '%' then .ok { s with percent := true }
  else if isAuthorityChar c then .ok s
  else .error .invalidCharacter

/-- Holds if what was seen makes up an authority. -/
def AuthorityScan.complete (s : AuthorityScan) : Bool :=
  s.opened == s.closed && s.colons ≤ 1 && !s.atEnd && !s.percent

/-- Takes an authority from the front of a text: its end is a slash, a question mark, a number sign
or the end of the text. An empty text has none. -/
def spanAuthority (cs : List Char) : Except UriError (List Char × List Char) :=
  if cs.isEmpty then .error .empty
  else
    let (taken, rest) := cs.span fun c => !endsAuthority c
    match taken.foldlM AuthorityScan.step {} with
    | .error e => .error e
    | .ok s => if s.complete then .ok (taken, rest) else .error .invalidAuthority

/-- The scheme before `://`, in lower case if it is one of the two of this protocol, and what follows
it. Four characters are the least that can hold a scheme. -/
def spanScheme (cs : List Char) : Except UriError (Option (List Char × List Char)) :=
  let (taken, rest) := cs.span isSchemeChar
  match Text.after? "://".toList rest with
  | none => .ok none
  | some rest =>
    if cs.length ≤ 3 then .ok none
    else
      let lowered := Text.lowerAscii taken
      if lowered = "http".toList || lowered = "https".toList then .ok (some (lowered, rest))
      else if schemeLimit < taken.length then .error .schemeTooLong
      else .ok (some (taken, rest))

/-- Reads a target that begins with neither a slash nor a lone star. -/
def ofFull? (cs : List Char) : Except UriError Uri := do
  match ← spanScheme cs with
  | none =>
    let (a, rest) ← spanAuthority cs
    if rest.isEmpty then return .authority a else throw .invalidFormat
  | some (scheme, cs) =>
    let (a, rest) ← spanAuthority cs
    if a.isEmpty then throw .invalidFormat
    return .absolute scheme a (← PathAndQuery.ofChars? rest)

/-- The octets of a text in UTF-8. -/
def octetCount (cs : List Char) : Nat :=
  cs.foldl (fun n c => n + c.utf8Size) 0

/-- Reads a target. -/
def ofChars? (cs : List Char) : Except UriError Uri :=
  if lengthLimit < octetCount cs then .error .tooLong
  else
    match cs with
    | [] => .error .empty
    | ['*'] => .ok (.relative ⟨['*'], none⟩)
    | '/' :: _ => (PathAndQuery.ofChars? cs).map .relative
    | [c] => if endsAuthority c then .error .invalidCharacter else ofFull? cs
    | _ => ofFull? cs

/-- `ofChars?` on a string. -/
def ofText? (s : String) : Except UriError Uri :=
  ofChars? s.toList

/-- The path: a slash for a target with a scheme and no path, nothing for an authority alone. -/
def path : Uri → List Char
  | .relative pq => pq.path
  | .authority _ => []
  | .absolute _ _ pq => if pq.path.isEmpty then ['/'] else pq.path

/-- The query. -/
def query : Uri → Option (List Char)
  | .relative pq => pq.query
  | .authority _ => none
  | .absolute _ _ pq => pq.query

/-- The scheme. -/
def scheme? : Uri → Option (List Char)
  | .absolute scheme _ _ => some scheme
  | _ => none

/-- The authority. -/
def authority? : Uri → Option (List Char)
  | .relative _ => none
  | .authority a => some a
  | .absolute _ a _ => some a

/-- The path and query; an authority alone has none. -/
def pathAndQuery? : Uri → Option PathAndQuery
  | .relative pq => some pq
  | .authority _ => none
  | .absolute _ _ pq => some pq

/-- The target as it is written. -/
def chars (u : Uri) : List Char :=
  let lead := match u with
    | .relative _ => []
    | .authority a => a
    | .absolute scheme a _ => scheme ++ "://".toList ++ a
  let query := match u.query with
    | none => []
    | some q => '?' :: q
  lead ++ u.path ++ query

/-- The target as a string. -/
def text (u : Uri) : String :=
  String.ofList u.chars

end Uri

end ApiGateway.Http
