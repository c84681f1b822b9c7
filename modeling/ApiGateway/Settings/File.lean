import ApiGateway.Settings.Json
import ApiGateway.Settings.Toml.Document
import ApiGateway.Settings.Yaml.Document
import ApiGateway.Text.Utf8

/-!
# Settings files

A settings file is YAML, JSON or TOML by what follows the last point of its name, and YAML if that is
nothing known. If there is no file of a name, the endings of the format are tried after it. Files are
looked up in a `Directory`.
-/

namespace ApiGateway.Settings

/-- The files that can be looked up, by their paths. -/
abbrev Directory := Keyed (List UInt8)

/-- The format of a settings file. -/
inductive File.Format where
  | yaml
  | json
  | toml
  deriving DecidableEq, Repr

/-- A settings file that is there, with what it holds. -/
structure File where
  path : String
  format : File.Format
  octets : List UInt8

namespace File

namespace Format

/-- The endings of names of files in the format, in the order in which they are tried. -/
def endings : Format → List String
  | .yaml => ["yaml", "yml"]
  | .json => ["json"]
  | .toml => ["toml"]

/-- What a text in the format says. -/
def read? (f : Format) (cs : List Char) : Option Table :=
  let ofValue? : Value → Option Table
    | .table t => some t
    | _ => none
  match f with
  | .yaml => (Yaml.ofChars? cs).bind ofValue?
  | .json => (Json.ofChars? cs).bind ofValue?
  | .toml => Toml.ofChars? cs

end Format

/-- The steps of a path, without those that stay where they are. -/
def steps (path : List Char) : List (List Char) :=
  (Text.fields '/' path).filter fun s => !s.isEmpty && s != ['.']

/-- The path without steps that stay where they are. -/
def plainPath (path : List Char) : List Char :=
  let joined := List.intercalate ['/'] (steps path)
  if path.head? == some '/' then '/' :: joined else joined

/-- What follows the last point of a name, unless the name begins with it. -/
def ending? (name : List Char) : Option (List Char) :=
  match name.reverse.span (· != '.') with
  | (_, []) => none
  | (_, [_]) => none
  | (ending, _) => if name = ['.', '.'] then none else some ending.reverse

/-- The format of the file at a path. -/
def formatOf (path : List Char) : Format :=
  match ((steps path).getLast?.bind ending?).map String.ofList with
  | some ending => ([Format.yaml, .json, .toml].find? fun f => f.endings.contains ending).getD .yaml
  | none => .yaml

/-- The paths at which a file is looked up: the path itself, unless it is that of a directory, and then
the path with each ending of the format. -/
def candidates (path : List Char) : List (List Char) :=
  let plain := plainPath path
  let isDirectory := path.getLast? == some '/' || path.drop (path.length - 2) == ['/', '.']
  let named := match (steps path).getLast? with
    | none => false
    | some name => name != ['.', '.']
  let exact := if isDirectory || !named then [] else [plain]
  let ended := (formatOf path).endings.map fun e => plain ++ '.' :: e.toList
  exact ++ if named then ended else []

/-- The file at a path, if there is one. -/
def find? (d : Directory) (path : String) : Option File :=
  (candidates path.toList).findSome? fun candidate =>
    let name := String.ofList candidate
    (d.get? name).map fun octets => { path := name, format := formatOf path.toList, octets }

/-- The octets without the mark of the encoding at their beginning. -/
def withoutMark : List UInt8 → List UInt8
  | 0xef :: 0xbb :: 0xbf :: rest => rest
  | octets => octets

/-- What the file says, if it can be read. -/
def table? (f : File) : Option Table :=
  f.format.read? (Text.decodeLossy (withoutMark f.octets))

end File

end ApiGateway.Settings
