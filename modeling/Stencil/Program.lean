import Stencil.Command.Colour
import Stencil.Command.Help
import Stencil.Command.Run
import Stencil.Log.Line
import Stencil.Settings.Load

/-!
# The program

The program reads its arguments, then its settings, sets up its log and runs the command.  Each of
these can end it.  A usage error has the exit code 2, any other failure 1, and so has the finding
that a text is no template.  A process that stops instead of reporting a failure has the exit code
101.
-/

namespace Stencil

/-- What the program finds beside arguments, surroundings and time: libraries that are left out
here, and where it shows its texts. -/
structure Host where
  /-- What reads the settings files. -/
  files : FileLibrary := {}
  /-- What reads the patterns in directives of the log. -/
  patterns : PatternReader := Filter.anyPattern
  /-- Whether the standard output is a terminal. -/
  terminal : Bool := false

/-- The ways in which the program fails once its arguments are understood. -/
inductive ProgramError where
  /-- There are no settings. -/
  | settings (error : SettingsError)
  /-- The log cannot be set up. -/
  | log (error : LogError)
  /-- The command fails. -/
  | command (error : CommandError)

namespace ProgramError

/-- Whether the process stops instead of reporting the failure. -/
def stops : ProgramError → Bool
  | settings error => error.stops
  | log error => error.stops
  | command _ => false

/-- What went wrong, in words. -/
def message : ProgramError → String
  | settings error => "Configuration error: " ++ error.message
  | log error => "Telemetry error: " ++ error.message
  | command error => error.message

/-- What went wrong, as it is reported at the end: the innermost message for failures before the
command. -/
def headline : ProgramError → String
  | settings error => error.message
  | log error => error.message
  | command error => error.message

/-- What lies behind the failure. -/
def cause : ProgramError → Option String
  | command (.template error) => some error.message
  | _ => none

/-- A text with four spaces before each of its lines. -/
def indented (text : String) : String :=
  String.ofList ("    ".toList ++ text.toList.flatMap fun character =>
    if character = '\n' then '\n' :: "    ".toList else [character])

/-- The report of the failure. -/
def report (error : ProgramError) : String :=
  "Error: " ++ error.headline ++ "\n" ++
    match error.cause with
    | none => ""
    | some cause => "\nCaused by:\n" ++ indented cause ++ "\n"

end ProgramError

/-- What came of running the program. -/
inductive Outcome where
  /-- The arguments are wrong. -/
  | usage (error : UsageError)
  /-- A text was asked for and shown. -/
  | shown (text : String)
  /-- The program failed before it could log anything. -/
  | refused (error : ProgramError)
  /-- The process stopped.  What it says then is left out. -/
  | stopped
  /-- The command was run. -/
  | ran (settings : Settings) (logged : List Event) (playback : Playback Verdict)

namespace Outcome

/-- The exit code. -/
def code : Outcome → Nat
  | usage _ => 2
  | shown _ => 0
  | refused _ => 1
  | stopped => 101
  | ran _ _ playback =>
    match playback.result with
    | .ok .success => 0
    | _ => 1

/-- The bytes on the standard output. -/
def written : Outcome → List UInt8
  | usage _ => []
  | shown text => Text.bytes text.toList
  | refused _ => []
  | stopped => []
  | ran _ _ playback => playback.written

/-- The report of a failure of the program, if there is one. -/
def report : Outcome → String
  | usage _ => ""
  | shown _ => ""
  | refused error => error.report
  | stopped => ""
  | ran _ _ playback =>
    match playback.result with
    | .ok _ => ""
    | .error error => (ProgramError.command error).report

end Outcome

namespace Program

/-- The filter of the log, unless a log has been set up before. -/
def installLog (installed : Bool) (logging : LoggingSettings) (environment : Option String)
    (patterns : PatternReader := Filter.anyPattern) : Except LogError Filter :=
  match Filter.choose environment logging.level patterns with
  | .error error => .error error
  | .ok filter => if installed then .error .alreadyInstalled else .ok filter

/-- The settings and the filter of the log. -/
def prepare (surroundings : Surroundings) (host : Host) : Except ProgramError (Settings × Filter) :=
  match Settings.load surroundings host.files with
  | .error error => .error (.settings error)
  | .ok settings =>
    let directives := surroundings.completed.get? "RUST_LOG"
    match installLog false settings.logging directives host.patterns with
    | .error error => .error (.log error)
    | .ok filter => .ok (settings, filter)

/-- The events before the command. -/
def openingEvents (settings : Settings) : List Event :=
  [.logReady settings.logging.level settings.logging.json, .settingsLoaded]

/-- Runs a command where its settings and its filter are known. -/
def runCommand (command : Command) (settings : Settings) (filter : Filter) (now : Moment) :
    Outcome :=
  let playback := (command.script settings.template.idPrefix now).play
  .ran settings ((openingEvents settings ++ playback.events).filter filter.logs) playback

/-- Runs the program. -/
def run (arguments : List String) (surroundings : Surroundings) (now : Moment)
    (host : Host := {}) : Outcome :=
  match Request.ofArguments arguments with
  | .error error => .usage error
  | .ok (.help topic) =>
    .shown (Help.text topic (surroundings.environment.showsColours host.terminal))
  | .ok .version => .shown Help.version
  | .ok (.run command) =>
    match prepare surroundings host with
    | .error error => if error.stops then .stopped else .refused error
    | .ok (settings, filter) => runCommand command settings filter now

end Program
end Stencil
