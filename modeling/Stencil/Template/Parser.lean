import Stencil.Template.Basic
import Stencil.Text.Blank
import Stencil.Text.Utf8

/-!
# Reading templates

A template is read from left to right.  The reader remembers where the current literal text began
and which brace is open, and stops at the first brace that does not fit.  Positions count bytes of
the UTF-8 form.
-/

namespace Stencil

/-- The ways in which a text fails to be a template. -/
inductive Offence where
  /-- An opening brace inside a placeholder. -/
  | nestedOpenBrace
  /-- A closing brace outside every placeholder. -/
  | unmatchedCloseBrace
  /-- An opening brace after which no brace follows. -/
  | unclosedPlaceholder
  /-- A placeholder whose name is white space or nothing. -/
  | emptyPlaceholder
deriving DecidableEq, Repr

namespace Offence

/-- What is wrong, in words. -/
def message : Offence → String
  | nestedOpenBrace => "unexpected '\x7b' inside placeholder"
  | unmatchedCloseBrace => "unmatched '\x7d'"
  | unclosedPlaceholder => "placeholder is never closed"
  | emptyPlaceholder => "placeholder has no variable name"

end Offence

/-- An offence and the position of the brace that commits it.  For a placeholder that is unclosed or
empty this is its opening brace. -/
structure SyntaxError where
  /-- The number of bytes before the brace. -/
  position : Nat
  /-- What the brace does wrong. -/
  offence : Offence
deriving DecidableEq, Repr

namespace SyntaxError

/-- The offence and its place, in words. -/
def message (error : SyntaxError) : String :=
  error.offence.message ++ " at byte " ++ error.position.repr

end SyntaxError

namespace Template

/-- What has been made of the characters read so far. -/
structure Reading where
  /-- The number of bytes read. -/
  position : Nat
  /-- Where the literal text that is being read, or that ends at the open brace, began. -/
  literalStart : Nat
  /-- The position of the open brace, inside a placeholder. -/
  opened : Option Nat
  /-- The characters since the last brace, the last one first. -/
  held : List Char
  /-- The pieces that are complete, the last one first. -/
  segments : List Segment

namespace Reading

/-- Nothing has been read. -/
def start : Reading where
  position := 0
  literalStart := 0
  opened := none
  held := []
  segments := []

/-- The characters since the last brace, in order. -/
def heldText (reading : Reading) : String :=
  String.ofList reading.held.reverse

/-- The complete pieces once the literal text being read has ended. -/
def endLiteral (reading : Reading) : List Segment :=
  if reading.literalStart < reading.position then
    .literal reading.heldText :: reading.segments
  else reading.segments

/-- Reads an opening brace. -/
def openBrace (reading : Reading) : Except SyntaxError Reading :=
  match reading.opened with
  | some _ => .error ⟨reading.position, .nestedOpenBrace⟩
  | none => .ok {
      position := reading.position + 1
      literalStart := reading.literalStart
      opened := some reading.position
      held := []
      segments := reading.endLiteral }

/-- Reads a closing brace. -/
def closeBrace (reading : Reading) : Except SyntaxError Reading :=
  match reading.opened with
  | none => .error ⟨reading.position, .unmatchedCloseBrace⟩
  | some start =>
    if reading.held.all Text.isBlank then
      .error ⟨start, .emptyPlaceholder⟩
    else .ok {
      position := reading.position + 1
      literalStart := reading.position + 1
      opened := none
      held := []
      segments := .placeholder reading.heldText :: reading.segments }

/-- Reads a character that is no brace. -/
def hold (reading : Reading) (character : Char) : Reading where
  position := reading.position + character.utf8Size
  literalStart := reading.literalStart
  opened := reading.opened
  held := character :: reading.held
  segments := reading.segments

/-- Reads one character. -/
def step (reading : Reading) (character : Char) : Except SyntaxError Reading :=
  if character = '{' then reading.openBrace
  else if character = '}' then reading.closeBrace
  else .ok (reading.hold character)

/-- The template that has been read, when the text ends here. -/
def finish (reading : Reading) : Except SyntaxError Template :=
  match reading.opened with
  | some start => .error ⟨start, .unclosedPlaceholder⟩
  | none => .ok reading.endLiteral.reverse

end Reading

/-- Reads a text as a template, or finds its first offence. -/
def parse (text : String) : Except SyntaxError Template := do
  let reading ← text.toList.foldlM Reading.step Reading.start
  reading.finish

end Template
end Stencil
