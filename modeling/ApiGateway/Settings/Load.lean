import ApiGateway.Settings.Decode
import ApiGateway.Settings.File

/-!
# Loading settings

Settings are what a file says, with what the environment says over it, key by key. A file that is not
there says nothing.
-/

namespace ApiGateway.Settings

/-- Why settings cannot be loaded: the file cannot be read, or a value does not fit. -/
inductive LoadError where
  | unreadable (path : String)
  | mismatch (m : Mismatch)
  deriving DecidableEq, Repr

namespace LoadError

/-- What failed, the outermost first; why a file cannot be read is left to its format. -/
def causes : LoadError → List String
  | .unreadable _ => ["Failed to build gateway configuration"]
  | .mismatch m => ["Failed to deserialize gateway configuration", m.message]

/-- The message for the error. -/
def message (e : LoadError) : String :=
  Text.joined ": " e.causes

end LoadError

/-- A table together with where it is from. -/
structure Source where
  origin : Origin
  table : Table

/-- The settings of a file, if there is one, with variables over them. -/
def ofSources? (file : Option Source) (environment : List (String × String)) :
    Except Mismatch Settings :=
  let below : Layers := match file with
    | none => []
    | some f => Layers.add f.origin [] f.table
  ofLayers? (below.add .environment (tableOfVariables environment))

/-- What the file at a path says, if there is a path and a file. -/
def source? (d : Directory) (path : Option String) : Except LoadError (Option Source) :=
  match path.bind (File.find? d) with
  | none => .ok none
  | some f =>
    match f.table? with
    | none => .error (.unreadable f.path)
    | some table => .ok (some { origin := .file f.path, table })

/-- Loads settings from the file at a path and from variables. -/
def load (d : Directory) (path : Option String) (environment : List (String × String)) :
    Except LoadError Settings := do
  let file ← source? d path
  (ofSources? file environment).mapError .mismatch

end ApiGateway.Settings
