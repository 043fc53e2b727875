import Stencil.Command.Arguments
import Stencil.Command.Script
import Stencil.Engine
import Stencil.Template.Names
import Stencil.Template.Validity

/-!
# Running commands

What each command does is said for every performer.  Rendering reads all assignments before anything
else, and writes nothing unless the whole template is rendered.
-/

namespace Stencil

/-- How a command ends that does not fail. -/
inductive Verdict where
  /-- With success. -/
  | success
  /-- With the finding that a text is no template. -/
  | invalid
deriving DecidableEq, Repr

namespace Command

open Performer

variable {m : Type → Type} [Monad m] [Performer m]

/-- Renders a template with assignments. -/
def performRender (idPrefix : String) (now : Moment) (template : String)
    (assignments : List String) (id : Option String) : m Verdict := do
  match Assignment.parseAll assignments with
  | .error error => fail (.argument error)
  | .ok pairs =>
    let processor := (Engine.create idPrefix now).createProcessor now id
    let processor ← ofLogged (processor.setContext now pairs)
    let result ← ofLogged (processor.process template)
    let text ← ofResult result
    writeLine text
    return .success

/-- Says whether a text is a template. -/
def performValidate (template : String) : m Verdict := do
  if ← ofLogged (Template.validate template) then
    writeLine "valid"
    return .success
  else
    writeLine "invalid"
    return .invalid

/-- Writes lines one after the other. -/
def writeLines : List String → m Unit
  | [] => return ()
  | line :: lines => do
    writeLine line
    writeLines lines

/-- Lists the names that a text mentions. -/
def performNames (template : String) : m Verdict := do
  writeLines (Template.names template)
  return .success

/-- The word for a truth value. -/
def truth (value : Bool) : String :=
  if value then "true" else "false"

/-- Shows the rendering of a template by an engine. -/
def demoRendering (engine : Engine) (now : Moment) : m Engine := do
  writeLine "Basic Template Processing:"
  let template := "Hello, \x7bname\x7d! Welcome to \x7bproduct\x7d version \x7bversion\x7d."
  let (engine, result) ← ofLogged (engine.process now template [
    ("name", .string "Developer"), ("product", .string "G-UNIT"), ("version", .string "1.0.0")])
  let text ← ofResult result
  writeLine ("Template: " ++ template)
  writeLine ("Result: " ++ text)
  return engine

/-- Shows the validation of two texts. -/
def demoValidation : m Unit := do
  writeLine "\nTemplate Validation:"
  let good ← ofLogged
    (Template.validate "The \x7banimal\x7d is \x7bcolor\x7d and \x7bmood\x7d.")
  writeLine ("Valid template: " ++ truth good)
  let bad ← ofLogged
    (Template.validate "The \x7banimal is \x7bcolor\x7d and \x7bmood\x7d.")
  writeLine ("Invalid template: " ++ truth bad)

/-- Shows the names that a text mentions. -/
def demoNames : m Unit := do
  writeLine "\nVariable Extraction:"
  let template :=
    "The \x7banimal\x7d \x7baction\x7d \x7bdirection\x7d the \x7bobject\x7d at \x7btime\x7d."
  writeLine ("Template: " ++ template)
  writeLine ("Variables: " ++ String.intercalate ", " (Template.names template))

/-- Shows the rendering of a story by a processor of its own. -/
def demoStory (engine : Engine) (now : Moment) : m Unit := do
  writeLine "\nAdvanced Template Processing:"
  let processor := engine.createProcessor now (some "story_template")
  let template :=
    "Once upon a time, there was a \x7bcharacter\x7d who loved to \x7baction\x7d.\n" ++
    "One day, they \x7bevent\x7d and discovered \x7bdiscovery\x7d.\n" ++
    "From that day forward, they \x7bresolution\x7d."
  if ← ofLogged (Template.validate template) then
    let processor ← ofLogged (processor.setContext now [
      ("character", .string "wizard"), ("action", .string "code"),
      ("event", .string "stumbled upon G-UNIT"),
      ("discovery", .string "the power of template processing"),
      ("resolution", .string "wrote beautiful templates every day")])
    let result ← ofLogged (processor.process template)
    let story ← ofResult result
    writeLine ("Generated Story:\n" ++ story)
  else writeLine "Invalid template!"

/-- Shows everything in turn, under an announcement. -/
def performDemo (idPrefix : String) (now : Moment) : m Verdict := do
  let tour (engine : Engine) : m Unit := do
    let engine ← demoRendering engine now
    demoValidation
    demoNames
    demoStory engine now
  announce "Initializing G-UNIT framework" tour (Engine.create idPrefix now)
  return .success

/-- What a command does when identifiers are made with a prefix at a moment. -/
def perform (command : Command) (idPrefix : String) (now : Moment) : m Verdict :=
  match command with
  | render template assignments id => performRender idPrefix now template assignments id
  | validate template => performValidate template
  | names template => performNames template
  | demo => performDemo idPrefix now

/-- The script of a command. -/
def script (command : Command) (idPrefix : String) (now : Moment) : Script Verdict :=
  command.perform idPrefix now

end Command
end Stencil
