import ApiGateway.Text.Blank

/-!
# Arguments of the command line

The command is `serve` unless another one is named. The settings file may be given before and after the
command; the one after it counts. What is not understood is a misuse.
-/

namespace ApiGateway.Command

/-- What the gateway can be told to do: to check the settings, or to serve requests. -/
inductive Verb where
  | validate
  | serve
  deriving DecidableEq, Repr

namespace Verb

/-- The name of the command. -/
def name : Verb → String
  | .validate => "validate"
  | .serve => "serve"

/-- The command of a name. -/
def ofName? (name : String) : Option Verb :=
  [Verb.validate, .serve].find? fun v => v.name = name

end Verb

/-- What the arguments ask for: a command with a settings file, how a command or the program is used, or the
version. -/
inductive Request where
  | run (verb : Verb) (file : Option String)
  | help (verb : Option Verb)
  | version
  deriving DecidableEq, Repr

/-- What has been read of the arguments: the command, the file before it and the file after it. -/
structure Reading where
  verb : Option Verb := none
  outer : Option String := none
  inner : Option String := none

namespace Reading

/-- Takes the settings file, which is given at most once before and once after the command. -/
def takeFile? (r : Reading) (file : String) : Option Reading :=
  match r.verb with
  | none => if r.outer.isSome then none else some { r with outer := some file }
  | some _ => if r.inner.isSome then none else some { r with inner := some file }

/-- What the arguments ask for that have been read. -/
def request (r : Reading) : Request :=
  .run (r.verb.getD .serve) (r.inner.or r.outer)

end Reading

/-- How an argument is meant: the next one is the settings file, or this one is; it asks for help or the version;
it ends the options; or it is a word, or nothing that is known. -/
inductive Meaning where
  | fileNext
  | file (path : String)
  | help
  | version
  | optionsEnd
  | word
  | unknown

namespace Meaning

/-- How letters after a hyphen are meant: the first one decides, and what follows `c` is the file. -/
def ofLetters : List Char → Meaning
  | ['c'] => .fileNext
  | 'c' :: '=' :: path => .file (String.ofList path)
  | 'c' :: path => .file (String.ofList path)
  | 'h' :: _ => .help
  | 'V' :: _ => .version
  | _ => .unknown

/-- How an argument is meant. -/
def ofArgument (argument : String) : Meaning :=
  let cs := argument.toList
  match Text.after? "--config=".toList cs with
  | some path => .file (String.ofList path)
  | none =>
    if argument = "--config" then .fileNext
    else if argument = "--help" then .help
    else if argument = "--version" then .version
    else
      match cs with
      | ['-', '-'] => .optionsEnd
      | '-' :: '-' :: _ => .unknown
      | '-' :: letter :: letters => ofLetters (letter :: letters)
      | _ => .word

/-- Holds for what can be the value of an option. -/
def isValue : Meaning → Bool
  | .word => true
  | _ => false

end Meaning

/-- Reads what is left of the arguments. -/
def read? (r : Reading) : List String → Option Request
  | [] => some r.request
  | argument :: rest =>
    match Meaning.ofArgument argument with
    | .fileNext =>
      match rest with
      | [] => none
      | path :: rest =>
        if (Meaning.ofArgument path).isValue then (r.takeFile? path).bind (read? · rest) else none
    | .file path => (r.takeFile? path).bind (read? · rest)
    | .help => some (.help r.verb)
    | .version => if r.verb.isNone then some .version else none
    | .optionsEnd => if rest.isEmpty then some r.request else none
    | .unknown => none
    | .word =>
      match r.verb with
      | some _ => none
      | none =>
        match Verb.ofName? argument, argument, rest with
        | some verb, _, rest => read? { r with verb := some verb } rest
        | none, "help", [] => some (.help none)
        | none, "help", [name] =>
          if name = "help" then some (.help none)
          else (Verb.ofName? name).map fun verb => .help (some verb)
        | none, _, _ => none

/-- What the arguments ask for, if they are understood. -/
def Request.ofArguments? (arguments : List String) : Option Request :=
  read? {} arguments

end ApiGateway.Command
