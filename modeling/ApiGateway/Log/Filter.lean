import ApiGateway.Text.Alphanumeric
import ApiGateway.Text.Blank
import ApiGateway.Number.Integer

/-!
# Log filters

A filter is a list of directives with commas between them, such as `info,store[commit]=trace`. A
directive gives the greatest detail that is logged: everywhere, or for the targets that begin with its
target, or within its span. Of the directives for an event the one with the longest target decides.

The gateway does not read filters itself: whoever writes its log does. It relies on nothing of that but that a
text is read or is not, with a message why (`FilterReader`). `Filter.reader` is the reader of the filters above.
It takes from a `Lexicon` which letters there are beyond ASCII and which values of fields are patterns.
`Lexicon.unicode` has those of Unicode, and is lenient about patterns: it takes every text for one.
-/

namespace ApiGateway.Log

/-- How much detail is logged, each level with the ones before it. -/
inductive Level where
  | off
  | error
  | warn
  | info
  | debug
  | trace
  deriving DecidableEq, Repr

namespace Level

/-- The levels, the one with the least detail first. -/
def all : List Level := [.off, .error, .warn, .info, .debug, .trace]

/-- The place of the level among all. -/
def detail : Level → Nat
  | .off => 0
  | .error => 1
  | .warn => 2
  | .info => 3
  | .debug => 4
  | .trace => 5

/-- The name of the level. -/
def name : Level → String
  | .off => "off"
  | .error => "error"
  | .warn => "warn"
  | .info => "info"
  | .debug => "debug"
  | .trace => "trace"

/-- The level that a number or a name in any case denotes. An empty text denotes errors. -/
def ofChars? (cs : List Char) : Option Level :=
  match (Number.uint64OfText? cs).bind (all[·]?) with
  | some level => some level
  | none =>
    if cs.isEmpty then some .error
    else all.find? fun level => level.name.toList = Text.lowerAscii cs

end Level

/-- Why a text is no filter: a directive is not of its form, it gives no level, or the value of a field is no
pattern. -/
inductive FilterError where
  | invalidDirective
  | invalidLevel
  | invalidPattern (fault : String)
  deriving DecidableEq, Repr

namespace FilterError

/-- The message for the error. -/
def message : FilterError → String
  | .invalidDirective => "invalid filter directive"
  | .invalidPattern fault => "invalid field filter: " ++ fault
  | .invalidLevel =>
    "error parsing level filter: expected one of \"off\", \"error\", \"warn\", \"info\", \"debug\"," ++
      " \"trace\", or a number 0-5"

end FilterError

/-- A field that a directive asks for, with a given value or with any. -/
structure FieldMatch where
  name : List Char
  hasValue : Bool
  deriving DecidableEq, Repr

/-- A directive of a filter: the detail that it admits, what the target of an event begins with, the span in
which an event happens, and the fields that it asks for. -/
structure Directive where
  level : Level := .trace
  target : Option (List Char) := none
  span : Option (List Char) := none
  fields : List FieldMatch := []
  deriving DecidableEq, Repr, Inhabited

/-- What the reading of a filter takes from elsewhere: which characters beyond ASCII are letters or digits, and
what is wrong with a text that is no pattern for the value of a field. -/
structure Lexicon where
  isWordChar : Char → Bool
  patternFault? : List Char → Option String

namespace Lexicon

/-- The letters and digits of Unicode, and every text as a pattern. -/
def unicode : Lexicon :=
  ⟨Text.isAlphanumeric, fun _ => none⟩

/-- A character that a directive may begin with, an opening bracket apart. -/
def beginsName (lexicon : Lexicon) (c : Char) : Bool :=
  c == '-' || c == ':' || c == '_' || c.isAlphanum || (0x7f < c.toNat && lexicon.isWordChar c)

/-- A field with the value that may stand between an equals sign and the next. -/
def fieldMatch? (lexicon : Lexicon) (piece : List Char) : Except FilterError FieldMatch :=
  if piece.isEmpty then .error .invalidDirective
  else
    match Text.fields '=' piece.reverse with
    | name :: value :: _ =>
      match lexicon.patternFault? value with
      | some fault => .error (.invalidPattern fault)
      | none => .ok ⟨name, true⟩
    | _ => .ok ⟨piece.reverse, false⟩

end Lexicon

namespace Directive

/-- Where the reading of a directive stands: before it, in a target or a level that stands alone, in the name of
a span, in a field, after the fields, after the span, or in the level. A piece is kept last character first. -/
inductive Stage where
  | start
  | name (piece : List Char)
  | span (piece : List Char)
  | field (piece : List Char)
  | fieldsEnd
  | spanEnd
  | level (piece : List Char)

/-- The name of a span, which may be missing before fields. -/
def spanName? (piece : List Char) : Option (List Char) :=
  if piece.isEmpty then none else some piece.reverse

/-- Reads a character: `c` decides, and `kept` goes into the piece. -/
def step (lexicon : Lexicon) (state : Stage × Directive) (c kept : Char) : Except FilterError (Stage × Directive) :=
  let (stage, d) := state
  match stage with
  | .start =>
    if c == '[' then .ok (.span [], d)
    else if lexicon.beginsName c then .ok (.name [kept], d)
    else .error .invalidDirective
  | .name piece =>
    if c == '=' then .ok (.level [], { d with target := some piece.reverse })
    else if c == '[' then .ok (.span [], { d with target := some piece.reverse })
    else .ok (.name (kept :: piece), d)
  | .span piece =>
    if c == ']' then .ok (.spanEnd, { d with span := some piece.reverse })
    else if c == '\x7b' then .ok (.field [], { d with span := spanName? piece })
    else .ok (.span (kept :: piece), d)
  | .field piece =>
    if c == '\x7d' then do
      let m ← lexicon.fieldMatch? piece
      return (.fieldsEnd, { d with fields := d.fields ++ [m] })
    else .ok (.field (kept :: piece), d)
  | .fieldsEnd => if c == ']' then .ok (.spanEnd, d) else .error .invalidDirective
  | .spanEnd => if c == '=' then .ok (.level [], d) else .error .invalidDirective
  | .level piece => .ok (.level (kept :: piece), d)

/-- Ends the directive; `left` is what the last piece still takes. -/
def finish (left : List Char) (state : Stage × Directive) : Except FilterError Directive :=
  let (stage, d) := state
  match stage with
  | .name piece =>
    let text := piece.reverse ++ left
    match Level.ofChars? text with
    | some level => .ok { d with level, target := none }
    | none => .ok { d with level := .trace, target := some text }
  | .level piece =>
    let text := piece.reverse ++ left
    if text.isEmpty then .ok { d with level := .trace }
    else
      match Level.ofChars? text with
      | some level => .ok { d with level }
      | none => .error .invalidLevel
  | .spanEnd => .ok d
  | _ => .error .invalidDirective

/-- Reads a directive. Blanks at its ends play no part in how it is cut, but the pieces are cut out of
the text that has them. -/
def ofChars? (lexicon : Lexicon) (cs : List Char) : Except FilterError Directive := do
  let trimmed := Text.trim cs
  let state ← (trimmed.zip cs).foldlM (fun state (c, kept) => step lexicon state c kept) (.start, {})
  finish (cs.drop trimmed.length) state

/-- Holds for directives that ask for a span or for fields. -/
def isDynamic (d : Directive) : Bool :=
  d.span.isSome || !d.fields.isEmpty

/-- Holds for directives that an event alone can meet. -/
def isStatic (d : Directive) : Bool :=
  d.span.isNone && !d.fields.any FieldMatch.hasValue

end Directive

/-- An event to be logged: its level, where it comes from and the names of its fields. -/
structure Event where
  level : Level
  target : List Char
  fields : List (List Char)

namespace Directive

/-- Holds if the directive speaks of the event. -/
def covers (d : Directive) (e : Event) : Bool :=
  (d.target.all fun t => (Text.after? t e.target).isSome) &&
    d.fields.all fun f => e.fields.contains f.name

/-- The length of the target, a directive without one before all others. -/
def rank (d : Directive) : Nat :=
  match d.target with
  | none => 0
  | some t => t.length + 1

/-- Holds if `d` is at least as special as `other`. -/
def isAsSpecial (d other : Directive) : Bool :=
  other.rank < d.rank || (other.rank = d.rank && other.fields.length ≤ d.fields.length)

end Directive

/-- A log filter. -/
structure Filter where
  directives : List Directive
  deriving DecidableEq, Repr, Inhabited

/-- What reads filters: the filter that a text is, or the message why it is none. -/
abbrev FilterReader := String → Except String Filter

namespace Filter

/-- Reads a filter; empty directives are skipped. -/
def ofText? (lexicon : Lexicon) (text : String) : Except FilterError Filter := do
  let pieces := (Text.fields ',' text.toList).filter fun piece => !piece.isEmpty
  return ⟨← pieces.mapM (Directive.ofChars? lexicon)⟩

/-- The reader of filters in a lexicon. -/
def reader (lexicon : Lexicon) : FilterReader := fun text =>
  (ofText? lexicon text).mapError FilterError.message

/-- The directives that an event alone can meet; a filter without any directive admits errors. -/
def statics (f : Filter) : List Directive :=
  if f.directives.isEmpty then [{ level := .error }] else f.directives.filter Directive.isStatic

/-- The most special directive for the event, the last of equals. -/
def deciding? (f : Filter) (e : Event) : Option Directive :=
  (f.statics.filter (·.covers e)).foldl
    (fun best d => if best.all (d.isAsSpecial ·) then some d else best) none

/-- Holds if the event is logged. -/
def enables (f : Filter) (e : Event) : Bool :=
  (f.deciding? e).any fun d => e.level.detail ≤ d.level.detail

end Filter

end ApiGateway.Log
