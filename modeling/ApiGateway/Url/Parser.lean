import ApiGateway.Url.Basic
import ApiGateway.Url.Path

/-!
# Reading URLs

`Url.ofChars?` reads an absolute URL as web browsers do. Control characters and blanks around the text
and tabs and line breaks anywhere in it are dropped. In a URL with a well-known scheme a backslash
before the query counts as a slash, and any number of slashes may stand before the host.
-/

namespace ApiGateway.Url

/-- A character that is dropped wherever it stands. -/
def isDropped (c : Char) : Bool :=
  c == '\t' || c == '\n' || c == '\r'

/-- A character that is dropped at both ends. -/
def isPadding (c : Char) : Bool :=
  c.toNat ≤ 0x20

/-- A character of a scheme after the first one. -/
def isSchemeChar (c : Char) : Bool :=
  c.isAlphanum || c == '+' || c == '-' || c == '.'

/-- The scheme in lower case and what follows its colon. -/
def spanScheme? (cs : List Char) : Option (List Char × List Char) :=
  match cs with
  | first :: _ =>
    if first.isAlpha then
      match cs.span isSchemeChar with
      | (scheme, ':' :: rest) => some (Text.lowerAscii scheme, rest)
      | _ => none
    else none
  | [] => none

/-- The query and the fragment of what follows the path. -/
def tailParts (special : Bool) (cs : List Char) : Option (List Char) × Option (List Char) :=
  let (query, rest) := match cs with
    | '?' :: cs =>
      let (query, rest) := cs.span (· != '#')
      let set := if special then Percent.inSpecialQuery else Percent.inQuery
      (some (Percent.encode set query), rest)
    | cs => (none, cs)
  match rest with
  | '#' :: fragment => (query, some (Percent.encode Percent.inFragment fragment))
  | _ => (query, none)

/-- Splits at the last `@`. -/
def splitUser (cs : List Char) : Option (List Char × List Char) :=
  let host := cs.reverse.takeWhile (· != '@')
  if host.length = cs.length then none
  else some (cs.take (cs.length - host.length - 1), host.reverse)

/-- The user name and the password, which is left out if it is empty. -/
def userParts (cs : List Char) : List Char × Option (List Char) :=
  let (name, rest) := cs.span (· != ':')
  let password := match rest with
    | _ :: p :: ps => some (Percent.encode Percent.inUserInfo (p :: ps))
    | _ => none
  (Percent.encode Percent.inUserInfo name, password)

/-- Splits the host from what follows it, a colon outside of brackets. -/
def spanHost (inside : Bool) : List Char → List Char × List Char
  | [] => ([], [])
  | c :: cs =>
    if c == ':' && !inside then ([], c :: cs)
    else
      let inside := if c == '[' then true else if c == ']' then false else inside
      let (host, rest) := spanHost inside cs
      (c :: host, rest)

/-- The port after a colon, and what follows it. -/
def spanPort (scheme cs : List Char) : Except UrlError (Option Port × List Char) :=
  match cs with
  | ':' :: cs =>
    let (digits, rest) := cs.span Char.isDigit
    if rest.head?.all (· == '\\') then
      match Number.natOfDigits? 10 digits with
      | none => .ok (none, rest)
      | some n =>
        if 65535 < n then .error .invalidPort
        else
          let port := UInt16.ofNat n
          .ok (if defaultPort? scheme = some port then none else some port, rest)
    else .error .invalidPort
  | cs => .ok (none, cs)

/-- The host of an authority; none if the text is empty and the scheme allows that. -/
def hostOf? (kind : SchemeKind) (cs : List Char) : Except UrlError (Option Host) :=
  match kind with
  | .other => if cs.isEmpty then .ok none else (Host.ofOther? cs).map some
  | _ => if cs.isEmpty then .error .emptyHost else (Host.ofSpecial? cs).map some

/-- Reads an authority. `more` tells whether anything follows it. Gives what is left of its text too. -/
def authority? (kind : SchemeKind) (scheme cs : List Char) (more : Bool) :
    Except UrlError (Authority × List Char) := do
  let split := splitUser cs
  if split = some ([], []) && more then throw .emptyHost
  let (user, cs) := split.getD ([], cs)
  let (username, password) := userParts user
  let (hostText, rest) := spanHost false cs
  let host ← hostOf? kind hostText
  if host.isNone && !rest.isEmpty then throw .emptyHost
  let (port, rest) ← spanPort scheme rest
  if host.isNone && (!username.isEmpty || password.isSome) then throw .emptyHost
  return ({ username, password, host, port }, rest)

/-- Reads what follows the scheme of a URL of the web, up to the query. -/
def webParts (scheme cs : List Char) (more : Bool) :
    Except UrlError (Option Authority × List Char) := do
  let (auth, path) := (cs.dropWhile (· == '/')).span (· != '/')
  let (authority, _) ← authority? .web scheme auth (more || !path.isEmpty)
  return (some authority, Path.absolute path)

/-- Reads what follows the scheme of a URL of local files, up to the query. -/
def fileParts (cs : List Char) : Except UrlError (Option Authority × List Char) :=
  match Text.after? ['/', '/'] cs with
  | none => .ok (some {}, Path.ofFile cs)
  | some rest =>
    let (host, path) := rest.span (· != '/')
    if Path.isDrive true host then .ok (some {}, Path.ofFile rest)
    else if host.isEmpty then .ok (some {}, Path.ofFile path)
    else do
      let host ← Host.ofSpecial? host
      let drive := ((Path.fileSegments (path.drop 1)).head?).any (Path.isDrive false)
      let dropped := host = .domain "localhost".toList || drive
      return (some { host := if dropped then none else some host }, Path.ofFile path)

/-- Reads what follows any other scheme, up to the query. -/
def otherParts (scheme cs : List Char) (more : Bool) :
    Except UrlError (Option Authority × List Char) := do
  match Text.after? ['/', '/'] cs with
  | some rest =>
    let (auth, path) := rest.span (· != '/')
    let (authority, left) ← authority? .other scheme auth (more || !path.isEmpty)
    let path := left ++ path
    return (some authority, if path.isEmpty then [] else Path.absolute path)
  | none =>
    match cs with
    | '/' :: rest => return (none, Path.afterSlash rest)
    | cs => return (none, Percent.encode Percent.isControl cs)

/-- Reads a URL. -/
def ofChars? (cs : List Char) : Except UrlError Url := do
  let cs := (Text.strip isPadding cs).filter (!isDropped ·)
  match spanScheme? cs with
  | none => throw .noScheme
  | some (scheme, rest) =>
    let kind := SchemeKind.ofScheme scheme
    let (text, tail) := rest.span fun c => c != '?' && c != '#'
    let text := if kind.isSpecial then text.map fun c => if c = '\\' then '/' else c else text
    let (authority, path) ← match kind with
      | .web => webParts scheme text (!tail.isEmpty)
      | .file => fileParts text
      | .other => otherParts scheme text (!tail.isEmpty)
    let (query, fragment) := tailParts kind.isSpecial tail
    return { scheme, authority, path, query, fragment }

/-- `ofChars?` on a string. -/
def ofText? (s : String) : Except UrlError Url :=
  ofChars? s.toList

end ApiGateway.Url
