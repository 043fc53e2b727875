import Stencil.Command.Arguments

/-!
# Help texts

The texts that are shown when help or the version is asked for.  Where colours are shown, escape
sequences around the headings and around what is to be typed as it stands make them stand out.

What is said about wrong arguments is left out.
-/

namespace Stencil
namespace Help

/-- How a piece of a text looks where colours are shown. -/
inductive Look where
  /-- Like everything else. -/
  | plain
  /-- Bold and underlined. -/
  | heading
  /-- Bold. -/
  | literal
deriving DecidableEq, Repr

namespace Look

/-- The escape sequences before a piece. -/
def code : Look → String
  | plain => ""
  | heading => "\x1b[1m\x1b[4m"
  | literal => "\x1b[1m"

/-- The escape sequence after a piece. -/
def reset : Look → String
  | plain => ""
  | heading => "\x1b[0m"
  | literal => "\x1b[0m"

end Look

/-- A piece of a text. -/
structure Piece where
  /-- How it looks. -/
  look : Look
  /-- What it says. -/
  text : String
deriving DecidableEq, Repr

namespace Piece

/-- A piece that looks like everything else. -/
def plain (text : String) : Piece :=
  ⟨.plain, text⟩

/-- A heading. -/
def heading (text : String) : Piece :=
  ⟨.heading, text⟩

/-- A piece that is to be typed as it stands. -/
def literal (text : String) : Piece :=
  ⟨.literal, text⟩

/-- The piece as it is shown. -/
def shown (coloured : Bool) (piece : Piece) : String :=
  if coloured then piece.look.code ++ piece.text ++ piece.look.reset else piece.text

end Piece

/-- A line of a text. -/
abbrev Line := List Piece

namespace Line

/-- The number of characters in a line. -/
def width (line : Line) : Nat :=
  line.foldl (fun width piece => width + piece.text.length) 0

/-- The line as it is shown, ended. -/
def shown (coloured : Bool) (line : Line) : String :=
  String.join (line.map (Piece.shown coloured)) ++ "\n"

end Line

/-- A row of a table: what can be given, and what it is about. -/
structure Row where
  /-- What can be given. -/
  label : Line
  /-- What it is about, or nothing. -/
  about : String
deriving DecidableEq, Repr

/-- The lines of a table, in which everything about the rows starts at one place. -/
def table (rows : List Row) : List Line :=
  let widest := rows.foldl (fun widest row => max widest row.label.width) 0
  rows.map fun row =>
    let blanks := String.ofList (List.replicate (widest + 2 - row.label.width) ' ')
    .plain "  " :: row.label ++ [.plain (blanks ++ row.about)]

/-- A help text. -/
structure Page where
  /-- What the program or the subcommand does, in one line. -/
  summary : String
  /-- The words before the arguments. -/
  command : String
  /-- The arguments. -/
  arguments : String
  /-- What can be given, under headings. -/
  sections : List (String × List Row)
deriving DecidableEq, Repr

namespace Page

/-- The lines of a help text. -/
def lines (page : Page) : List Line :=
  [[.plain page.summary], [],
    [.heading "Usage:", .plain " ", .literal page.command, .plain page.arguments]] ++
  page.sections.flatMap fun (title, rows) => [[], [.heading title]] ++ table rows

end Page

/-- An option of one letter or a name. -/
def optionRow (letter name about : String) : Row :=
  ⟨[.literal letter, .plain ", ", .literal name], about⟩

/-- The option that asks for help. -/
def helpRow : Row :=
  optionRow "-h" "--help" "Print help"

/-- The argument that is a template. -/
def templateRow : Row :=
  ⟨[.plain "<TEMPLATE>"], ""⟩

end Help

namespace Subcommand

/-- What the subcommand does, in one line. -/
def summary : Subcommand → String
  | render => "Substitute variables into a template"
  | validate => "Check template syntax; exits non-zero when invalid"
  | names => "List the variable names a template references"
  | demo => "Walk through the engine's features"
  | help => "Print this message or the help of the given subcommand(s)"

/-- The help text of the subcommand. -/
def page (subcommand : Subcommand) : Help.Page where
  summary := subcommand.summary
  command :=
    match subcommand with
    | render => "gunit render"
    | validate => "gunit validate"
    | names => "gunit vars"
    | demo => "gunit demo"
    | help => "gunit help"
  arguments :=
    match subcommand with
    | render => " [OPTIONS] <TEMPLATE> [NAME=VALUE]..."
    | validate => " <TEMPLATE>"
    | names => " <TEMPLATE>"
    | demo => ""
    | help => " [COMMAND]..."
  sections :=
    match subcommand with
    | render => [
        ("Arguments:", [Help.templateRow,
          ⟨[.plain "[NAME=VALUE]..."], "Bindings as NAME=VALUE; JSON strings, booleans and null " ++
            "are decoded, anything else is kept as typed"⟩]),
        ("Options:", [⟨[.plain "    ", .literal "--id", .plain " <ID>"], "Processor identifier"⟩,
          Help.helpRow])]
    | validate => [("Arguments:", [Help.templateRow]), ("Options:", [Help.helpRow])]
    | names => [("Arguments:", [Help.templateRow]), ("Options:", [Help.helpRow])]
    | demo => [("Options:", [Help.helpRow])]
    | help => [
        ("Arguments:", [⟨[.plain "[COMMAND]..."], "Print help for the subcommand(s)"⟩])]

end Subcommand

namespace Help

/-- The help text of the whole program. -/
def programPage : Page where
  summary := "Guided Unified Notation for Intelligent Text"
  command := "gunit"
  arguments := " <COMMAND>"
  sections := [
    ("Commands:", [
      ⟨[.literal "render"], Subcommand.render.summary⟩,
      ⟨[.literal "validate"], Subcommand.validate.summary⟩,
      ⟨[.literal "vars"], Subcommand.names.summary⟩,
      ⟨[.literal "demo"], Subcommand.demo.summary⟩,
      ⟨[.literal "help"], Subcommand.help.summary⟩]),
    ("Options:", [helpRow, optionRow "-V" "--version" "Print version"])]

/-- The help text of the program or of a subcommand. -/
def page : Option Subcommand → Page
  | none => programPage
  | some subcommand => subcommand.page

/-- The help text of the program or of a subcommand as it is shown. -/
def text (topic : Option Subcommand) (coloured : Bool := false) : String :=
  String.join ((page topic).lines.map (Line.shown coloured))

/-- The text that names the version. -/
def version : String := "gunit 0.1.0\n"

end Help
end Stencil
