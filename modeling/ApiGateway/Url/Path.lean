import ApiGateway.Text.Blank
import ApiGateway.Url.Percent

/-!
# Paths of URLs

A path is a list of segments. Segments of one or two points, also with percent-encoded points, are
resolved while the path is read: one point stands for the segment itself, two for the one before it. In
a path of local files the letter of a drive is never left by two points.
-/

namespace ApiGateway.Url.Path

/-- Holds for the spellings of a single point. -/
def isSingleDot (segment : List Char) : Bool :=
  [".", "%2e"].contains (String.ofList (Text.lowerAscii segment))

/-- Holds for the spellings of two points. -/
def isDoubleDot (segment : List Char) : Bool :=
  ["..", ".%2e", "%2e.", "%2e%2e"].contains (String.ofList (Text.lowerAscii segment))

/-- Resolves the segments after those that are done, which come last first. The last segment is empty
if it is one of points. -/
def resolve (done : List (List Char)) : List (List Char) → List (List Char)
  | [] => done.reverse
  | [s] =>
    if isDoubleDot s then ([] :: done.tail).reverse
    else if isSingleDot s then ([] :: done).reverse
    else (Percent.encode Percent.inPath s :: done).reverse
  | s :: rest =>
    if isDoubleDot s then resolve done.tail rest
    else if isSingleDot s then resolve done rest
    else resolve (Percent.encode Percent.inPath s :: done) rest

/-- The segments with a slash before each. -/
def ofSegments (segments : List (List Char)) : List Char :=
  segments.flatMap ('/' :: ·)

/-- The path whose text after the first slash is given. -/
def afterSlash (text : List Char) : List Char :=
  ofSegments (resolve [] (Text.fields '/' text))

/-- The path of a text, whose first slash may be missing. -/
def absolute (text : List Char) : List Char :=
  match text with
  | '/' :: rest => afterSlash rest
  | text => afterSlash text

/-- A letter and a colon, or with `bar` also a letter and a vertical bar: the letter of a drive. -/
def isDrive (bar : Bool) : List Char → Bool
  | [letter, mark] => letter.isAlpha && (mark == ':' || (bar && mark == '|'))
  | _ => false

/-- The segments of a path of local files, in which the letter of a drive is followed by a colon and is
a segment of its own. -/
def fileSegments (text : List Char) : List (List Char) :=
  match Text.fields '/' text with
  | [] => []
  | s :: rest =>
    if isDrive true s then [s.head?.getD 'c', ':'] :: rest
    else if isDrive false (s.take 2) then s.take 2 :: s.drop 2 :: rest
    else s :: rest

/-- A path of local files; slashes at its start are one. -/
def ofFile (text : List Char) : List Char :=
  let text := match text with
    | '/' :: rest => rest
    | text => text
  let path := match fileSegments text with
    | [] => []
    | s :: rest =>
      if isDrive false s && !rest.isEmpty then ofSegments (s :: resolve [] rest)
      else ofSegments (resolve [] (s :: rest))
  '/' :: path.dropWhile (· == '/')

end ApiGateway.Url.Path
