import Stencil.Environment
import Stencil.Text.Alphanumeric
import Stencil.Text.Blank

/-!
# Variable files

A file may hold variables for the environment, one `NAME=VALUE` on a line, with quotes, escapes,
comments and references to other variables.  A variable that has a value keeps it.  Reading stops
without a word at the first line that is wrong.
-/

namespace Stencil
namespace VariableFile

/-- Where a line stands between two characters. -/
inductive Mode where
  /-- Outside quotes. -/
  | plain
  /-- After white space outside quotes. -/
  | blank
  /-- After a backslash outside quotes. -/
  | escape
  /-- Inside single quotes. -/
  | single
  /-- After a backslash inside single quotes. -/
  | singleEscape
  /-- Inside double quotes. -/
  | double
  /-- After a backslash inside double quotes. -/
  | doubleEscape
deriving DecidableEq, Repr

namespace Mode

/-- What a character does outside quotes, where white space is what `onBlank` says. -/
def outside (onBlank : Mode) (character : Char) : Mode :=
  if character = '\\' then escape
  else if character = '"' then double
  else if character = '\'' then single
  else if Text.isBlank character && character ≠ '\n' && character ≠ '\r' then onBlank
  else plain

/-- What a character does. -/
def next (character : Char) : Mode → Mode
  | plain => outside blank character
  | blank => outside plain character
  | escape => plain
  | single => if character = '\\' then singleEscape else if character = '\'' then plain else single
  | singleEscape => single
  | double => if character = '\\' then doubleEscape else if character = '"' then plain else double
  | doubleEscape => double

end Mode

/-- The physical lines of a text, each with the line break that ends it. -/
def physicalLines : List Char → List (List Char)
  | [] => []
  | character :: text =>
    if character = '\n' then [character] :: physicalLines text
    else
      match physicalLines text with
      | [] => [[character]]
      | line :: lines => (character :: line) :: lines

/-- Reads one physical line in a mode: what it holds before a comment, and the mode at its end, or
nothing when a comment ends it. -/
def scan : Mode → List Char → List Char × Option Mode
  | mode, [] => ([], some mode)
  | mode, character :: line =>
    if mode = .blank ∧ character = '#' then ([], none)
    else
      let (held, last) := scan (mode.next character) line
      (character :: held, last)

/-- Whether the first character that is not white space starts a comment. -/
def isComment (line : List Char) : Bool :=
  (Text.trimStart line).head? = some '#'

/-- A line without the line break that ends it. -/
def withoutBreak (line : List Char) : List Char :=
  match line.reverse with
  | '\n' :: '\r' :: line => line.reverse
  | '\n' :: line => line.reverse
  | _ => line

/-- The lines of a file, in which quotes and backslashes join physical lines.  `held` is what stands
before the first of `lines`.  The last one is nothing when the file ends inside a line. -/
def joinLines (held : List Char) (mode : Mode) : List (List Char) → List (Option (List Char))
  | [] => if mode = .plain then [] else [none]
  | line :: lines =>
    if isComment (held ++ line) then some [] :: joinLines [] .plain lines
    else
      let (kept, last) := scan mode line
      match last with
      | none => some (held ++ kept) :: joinLines [] .plain lines
      | some .plain => some (withoutBreak (held ++ kept)) :: joinLines [] .plain lines
      | some mode => joinLines (held ++ kept) mode lines

/-- Splits the name of a variable off a line. -/
def readName (line : List Char) : Option (String × List Char) :=
  let isNameCharacter (character : Char) : Bool :=
    character.isAlphanum || character = '_' || character = '.'
  match line with
  | [] => none
  | first :: _ =>
    if first.isAlpha || first = '_' then
      some (String.ofList (line.takeWhile isNameCharacter), line.dropWhile isNameCharacter)
    else none

/-- Splits name and equals sign off a line, and the white space around them. -/
def readAssigned (line : List Char) : Option (String × List Char) := do
  let (name, rest) ← readName (Text.trimStart line)
  match Text.trimStart rest with
  | '=' :: rest => return (name, Text.trimStart rest)
  | rest =>
    if name = "export" then
      let (name, rest) ← readName rest
      match Text.trimStart rest with
      | '=' :: rest => return (name, Text.trimStart rest)
      | _ => none
    else none

/-- How a reference to a variable is being read. -/
inductive Reference where
  /-- After a dollar sign. -/
  | bare
  /-- After a dollar sign and a brace. -/
  | braced
deriving DecidableEq, Repr

/-- What has been made of a value so far. -/
structure Reading where
  /-- Whether a single quote is open. -/
  single : Bool := false
  /-- Whether a double quote is open. -/
  double : Bool := false
  /-- Whether the last character was a backslash that escapes. -/
  escaped : Bool := false
  /-- Whether the value has ended and only a comment may follow. -/
  ended : Bool := false
  /-- Whether a comment has begun. -/
  commented : Bool := false
  /-- The reference that is being read. -/
  reference : Option Reference := none
  /-- The name in the reference, its last character first. -/
  name : List Char := []
  /-- The value, its last character first. -/
  output : List Char := []

namespace Reading

/-- Adds a character to the value. -/
def push (reading : Reading) (character : Char) : Reading :=
  { reading with output := character :: reading.output }

/-- Ends the reference and adds what its name stands for to the value. -/
def resolve (lookup : String → String) (reading : Reading) : Reading :=
  let value := lookup (String.ofList reading.name.reverse)
  { reading with
    reference := none
    name := []
    output := value.toList.reverse ++ reading.output }

/-- Reads a character after a backslash. -/
def readEscaped (reading : Reading) (character : Char) : Option Reading :=
  if character = '\\' || character = '\'' || character = '"' || character = '$' ||
      character = ' ' then
    some ({ reading with escaped := false }.push character)
  else if character = 'n' then some ({ reading with escaped := false }.push '\n')
  else none

/-- Reads a character of a reference. -/
def readReference (lookup : String → String) (reading : Reading) (kind : Reference)
    (character : Char) : Reading :=
  if Text.isAlphanumeric character then { reading with name := character :: reading.name }
  else
    match kind with
    | .bare =>
      if character = '{' && reading.name.isEmpty then { reading with reference := some .braced }
      else if character = '$' then
        { reading.resolve lookup with reference := some .bare }
      else (reading.resolve lookup).push character
    | .braced =>
      if character = '}' then reading.resolve lookup
      else { reading with name := character :: reading.name }

/-- Reads a character outside escapes, single quotes and references. -/
def readPlain (reading : Reading) (character : Char) : Reading :=
  if character = '$' then { reading with reference := some .bare }
  else if character = '\\' then { reading with escaped := true }
  else if character = '"' then { reading with double := !reading.double }
  else if reading.double then reading.push character
  else if character = '\'' then { reading with single := true }
  else if character = ' ' || character = '\t' then { reading with ended := true }
  else reading.push character

/-- Reads one character of a value. -/
def step (lookup : String → String) (reading : Reading) (character : Char) : Option Reading :=
  if reading.commented then some reading
  else if reading.ended then
    if character = ' ' || character = '\t' then some reading
    else if character = '#' then some { reading with commented := true }
    else none
  else if reading.escaped then reading.readEscaped character
  else if reading.single then
    if character = '\'' then some { reading with single := false }
    else some (reading.push character)
  else
    match reading.reference with
    | some kind => some (reading.readReference lookup kind character)
    | none => some (reading.readPlain character)

/-- The value, unless a quote or a brace is open. -/
def finish (lookup : String → String) (reading : Reading) : Option String :=
  if reading.single || reading.double || reading.reference = some .braced then none
  else some (String.ofList (reading.resolve lookup).output.reverse)

end Reading

/-- The value that the characters after the equals sign stand for. -/
def readValue (lookup : String → String) (text : List Char) : Option String := do
  let reading ← text.foldlM (Reading.step lookup) {}
  reading.finish lookup

/-- What has been read of a file. -/
structure State where
  /-- The environment, with the variables that the file has set. -/
  environment : Environment
  /-- The variables that the file has named. -/
  named : Dictionary String

namespace State

/-- The value of a variable: that of the environment, else the last one in the file. -/
def lookup (state : State) (name : String) : String :=
  (state.environment.following? name).getD ((state.named.get? name).getD "")

/-- Gives a variable a value if it has none. -/
def assign (state : State) (name value : String) : State where
  environment := state.environment.complete name value
  named := state.named.insert name value

/-- Reads one line, or finds that it is wrong. -/
def readLine (state : State) (line : List Char) : Option State :=
  let line := Text.trimStart (Text.trimEnd line)
  if line.isEmpty || line.head? = some '#' then some state
  else do
    let (name, text) ← readAssigned line
    if text.isEmpty || text.head? = some '#' then return state.assign name ""
    else
      let value ← readValue state.lookup text
      return state.assign name value

/-- Reads lines up to the first that is wrong. -/
def readLines : State → List (Option (List Char)) → State
  | state, [] => state
  | state, none :: _ => state
  | state, some line :: lines =>
    match state.readLine line with
    | some next => next.readLines lines
    | none => state

end State

/-- The environment with the variables of a file that it does not have. -/
def apply (text : String) (environment : Environment) : Environment :=
  let lines := joinLines [] .plain (physicalLines (Text.withoutMark text.toList))
  ((⟨environment, Dictionary.empty⟩ : State).readLines lines).environment

end VariableFile
end Stencil
