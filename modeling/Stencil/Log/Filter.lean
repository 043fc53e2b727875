import Stencil.Decimal.Reader
import Stencil.Event
import Stencil.Text.Alphanumeric
import Stencil.Text.Blank
import Stencil.Text.Pieces
import Stencil.Text.Slice

/-!
# Log filters

A filter is a list of directives separated by commas.  A directive is a threshold, or

    target[span{field=value}]=threshold

of which every part but one may be missing.  It gives the threshold to a target and to everything
whose name begins with it, or to every target.  A directive with a field is about events that have
the field.  For an event the directive with the longest target counts, of several with the same
target one with a field, and of several alike the last.

The program opens no spans.  So what directives with a span or with the value of a field do inside
spans is left out: they are read, count for the most detailed threshold, and let no event through.
Whether a text is a pattern for the value of a field is settled by a library of its own, which is
given from outside as a `PatternReader`.
-/

namespace Stencil

/-- The least important level that is logged, or nothing when nothing is logged. -/
abbrev Threshold := Option Level

namespace Threshold

/-- How much detail a threshold lets through. -/
def detail : Threshold → Nat
  | none => 0
  | some level => level.detail

/-- The name of a threshold. -/
def name : Threshold → String
  | none => "off"
  | some .error => "error"
  | some .warn => "warn"
  | some .info => "info"
  | some .debug => "debug"
  | some .trace => "trace"

/-- The thresholds, from the least to the most detail. -/
def all : List Threshold :=
  [none, some .error, some .warn, some .info, some .debug, some .trace]

/-- The number that digits denote, after an optional plus sign. -/
def number? (text : List Char) : Option Nat :=
  let digits :=
    match text with
    | '+' :: digits => digits
    | digits => digits
  if digits.isEmpty || !digits.all Char.isDigit then none else some (Nat.ofDigitChars 10 digits 0)

/-- The threshold with a number or, in any case of its letters, a name. -/
def ofText? (text : List Char) : Option Threshold :=
  match number? text with
  | some number => all[number]?
  | none => all.find? fun threshold => (name threshold).toList = text.map Char.toLower

end Threshold

/-- Says what is wrong with a text, if it is no pattern. -/
abbrev PatternReader := String → Option String

/-- What a directive asks of a field. -/
structure FieldFilter where
  /-- The name. -/
  name : String
  /-- The text of the value or of the pattern for it, if anything is asked of the value. -/
  value : Option String
deriving DecidableEq, Repr

/-- A threshold for some events. -/
structure Directive where
  /-- How the names of the targets begin, or nothing for every target. -/
  target : Option String := none
  /-- The span, if the directive is about one. -/
  span : Option String := none
  /-- The field.  A comma ends the directive, so there is at most one. -/
  field : Option FieldFilter := none
  /-- The least important level that is logged. -/
  threshold : Threshold := some .trace
deriving DecidableEq, Repr

/-- The ways in which a text fails to be a directive. -/
inductive DirectiveError where
  /-- Its parts are not those of a directive. -/
  | malformed
  /-- What follows the equals sign is no threshold. -/
  | unknownThreshold
  /-- What is asked of the value of a field is no pattern. -/
  | invalidField (fault : String)
  /-- It is cut inside a character.  The process stops there. -/
  | cutInside
deriving DecidableEq, Repr

namespace DirectiveError

/-- Whether the process stops instead of reporting the error. -/
def stops : DirectiveError → Bool
  | cutInside => true
  | _ => false

/-- What is wrong, in words.  Where the process stops there are none. -/
def message : DirectiveError → String
  | malformed => "invalid filter directive"
  | unknownThreshold =>
    "error parsing level filter: expected one of \"off\", \"error\", \"warn\", \"info\", " ++
      "\"debug\", \"trace\", or a number 0-5"
  | invalidField fault => "invalid field filter: " ++ fault
  | cutInside => ""

end DirectiveError

namespace FieldFilter

/-- Whether a text denotes a value by itself, and not as a pattern. -/
def isPlain (text : String) : Bool :=
  text = "true" || text = "false" || (Binary64.ofText? text.toList).isSome

/-- Reads what stands between braces.  A second equals sign and what follows it have no bearing. -/
def ofText (patterns : PatternReader) (text : String) : Except DirectiveError FieldFilter :=
  if text.isEmpty then .error .malformed
  else
    match (Text.pieces '=' text.toList).map String.ofList with
    | name :: value :: _ =>
      match if isPlain value then none else patterns value with
      | some fault => .error (.invalidField fault)
      | none => .ok ⟨name, some value⟩
    | _ => .ok ⟨text, none⟩

end FieldFilter

namespace Directive

/-- How far a directive has been read.  A number is the position at which a part begins. -/
inductive Stage where
  /-- At the start. -/
  | start
  /-- In a threshold alone or in a target. -/
  | word (first : Nat)
  /-- In the name of a span. -/
  | span (first : Nat)
  /-- In a field. -/
  | field (first : Nat)
  /-- Behind a field. -/
  | fieldEnd
  /-- Behind a span. -/
  | spanEnd
  /-- In the threshold of a target. -/
  | threshold (first : Nat)
deriving DecidableEq, Repr

/-- Whether a target may start with a character. -/
def startsTarget (character : Char) : Bool :=
  character = '-' || character = ':' || character = '_' || Text.isAlphanumeric character

/-- The part of a text between two positions. -/
def part (text : String) (first last : Nat) : Except DirectiveError String :=
  match Text.slice? text first last with
  | some part => .ok part
  | none => .error .cutInside

/-- Reads a character at a position. -/
def step (patterns : PatternReader) (text : String) :
    Stage × Directive → Nat × Char → Except DirectiveError (Stage × Directive)
  | (.start, directive), (position, character) =>
    if character = '[' then .ok (.span (position + 1), directive)
    else if startsTarget character then .ok (.word position, directive)
    else .error .malformed
  | (.word first, directive), (position, character) =>
    if character = '=' then do
      let target ← part text first position
      return (.threshold (position + 1), { directive with target := some target })
    else if character = '[' then do
      let target ← part text first position
      return (.span (position + 1), { directive with target := some target })
    else .ok (.word first, directive)
  | (.span first, directive), (position, character) =>
    if character = ']' then do
      let span ← part text first position
      return (.spanEnd, { directive with span := some span })
    else if character = '{' then do
      let span ← part text first position
      return (.field (position + 1),
        { directive with span := if span.isEmpty then none else some span })
    else .ok (.span first, directive)
  | (.field first, directive), (position, character) =>
    if character = '}' then do
      let field ← FieldFilter.ofText patterns (← part text first position)
      return (.fieldEnd, { directive with field := some field })
    else .ok (.field first, directive)
  | (.fieldEnd, directive), (_, character) =>
    if character = ']' then .ok (.spanEnd, directive) else .error .malformed
  | (.spanEnd, directive), (position, character) =>
    if character = '=' then .ok (.threshold (position + 1), directive) else .error .malformed
  | (.threshold first, directive), _ => .ok (.threshold first, directive)

/-- Ends a directive.  A word alone is a threshold for every target or else a target of which
everything is logged, and no threshold after an equals sign denotes the most detail. -/
def finish (text : String) : Stage × Directive → Except DirectiveError Directive
  | (.word first, directive) => do
    let word ← part text first text.utf8ByteSize
    match Threshold.ofText? word.toList with
    | some threshold => return { directive with threshold }
    | none => return { directive with target := some word }
  | (.threshold first, directive) => do
    let word ← part text first text.utf8ByteSize
    if word.isEmpty then return directive
    else
      match Threshold.ofText? word.toList with
      | some threshold => return { directive with threshold }
      | none => .error .unknownThreshold
  | (.spanEnd, directive) => .ok directive
  | _ => .error .malformed

/-- Reads a directive.  White space around it has no bearing on which characters are read and where
they are found, but the text is cut at that distance from its very beginning. -/
def parse (patterns : PatternReader) (text : String) : Except DirectiveError Directive := do
  let placed := Text.placed 0 (Text.trim text.toList)
  finish text (← placed.foldlM (step patterns text) (.start, {}))

/-- Whether a directive is about events, wherever they happen. -/
def isStatic (directive : Directive) : Bool :=
  directive.span.isNone && directive.field.all fun field => field.value.isNone

/-- Whether a directive is about an event. -/
def appliesTo (directive : Directive) (event : Event) : Bool :=
  directive.isStatic &&
    (directive.target.all fun start => start.toList.isPrefixOf event.target.toList) &&
    directive.field.all fun field => ("message" :: event.fields.map (·.1)).contains field.name

/-- How specific the target of a directive is. -/
def targetLength (directive : Directive) : Nat :=
  match directive.target with
  | none => 0
  | some start => start.toList.length + 1

/-- Whether a directive is less specific than another, where both are about the same event: its
target is shorter, or it has no field, or one whose name comes earlier. -/
def isBelow (directive other : Directive) : Bool :=
  directive.targetLength < other.targetLength ||
    directive.targetLength = other.targetLength &&
      match directive.field, other.field with
      | _, none => false
      | none, some _ => true
      | some field, some otherField => field.name < otherField.name

end Directive

/-- What is logged. -/
structure Filter where
  /-- The directives in the order in which they were given. -/
  directives : List Directive
deriving DecidableEq, Repr

/-- The ways in which the log cannot be set up. -/
inductive LogError where
  /-- A text is no filter. -/
  | invalidFilter (text : String) (reason : DirectiveError)
  /-- The log has been set up before. -/
  | alreadyInstalled
deriving DecidableEq, Repr

namespace LogError

/-- Whether the process stops instead of reporting the error. -/
def stops : LogError → Bool
  | invalidFilter _ reason => reason.stops
  | alreadyInstalled => false

/-- What is wrong, in words. -/
def message : LogError → String
  | invalidFilter text reason => "Invalid log filter '" ++ text ++ "': " ++ reason.message
  | alreadyInstalled =>
    "Failed to install tracing subscriber: a global default trace dispatcher has already been set"

end LogError

namespace Filter

/-- The reader of patterns that takes every text for one. -/
def anyPattern : PatternReader := fun _ => none

/-- Reads a filter.  Empty directives are passed over, and without any nothing is logged. -/
def parse (text : String) (patterns : PatternReader := anyPattern) : Except LogError Filter :=
  let directives := (Text.pieces ',' text.toList).filter fun piece => !piece.isEmpty
  match directives.mapM fun piece => Directive.parse patterns (String.ofList piece) with
  | .ok directives => .ok ⟨directives⟩
  | .error reason => .error (.invalidFilter text reason)

/-- The filter of the environment, if there is one and it can be read, else that of the settings.
The process may stop at either. -/
def choose (environment : Option String) (settings : String)
    (patterns : PatternReader := anyPattern) : Except LogError Filter :=
  match environment.map fun text => parse text patterns with
  | some (.ok filter) => .ok filter
  | some (.error error) => if error.stops then .error error else parse settings patterns
  | none => parse settings patterns

/-- The more detailed of two thresholds. -/
def moreDetailed (first second : Threshold) : Threshold :=
  if first.detail < second.detail then second else first

/-- The most detailed threshold of all directives.  Where the value of a field counts, nothing is
ruled out. -/
def maxThreshold (filter : Filter) : Threshold :=
  if filter.directives.any fun directive => directive.field.any fun field => field.value.isSome then
    some .trace
  else
    filter.directives.foldl (fun threshold directive => moreDetailed threshold directive.threshold)
      none

/-- The more specific of two directives, where the later one wins a tie. -/
def moreSpecific (earlier later : Directive) : Directive :=
  if later.isBelow earlier then earlier else later

/-- The threshold for an event. -/
def thresholdFor (filter : Filter) (event : Event) : Threshold :=
  let nothing : Directive := { threshold := none }
  (filter.directives.filter (·.appliesTo event)).foldl moreSpecific nothing |>.threshold

/-- Whether an event is logged. -/
def logs (filter : Filter) (event : Event) : Bool :=
  event.level.detail ≤ (filter.thresholdFor event).detail

end Filter
end Stencil
