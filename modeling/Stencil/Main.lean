import Std.Time.DateTime.Timestamp
import Stencil.Program

/-!
# The command line

Gathers arguments, environment, files and time, runs the program and shows what came of it.
-/

namespace Stencil
namespace CommandLine

/-- The text of a file, or nothing when it cannot be read. -/
def readText (path : String) : IO (Option String) := do
  try return some (← IO.FS.readFile path)
  catch _ => return none

/-- The variables of the environment. -/
def readVariables : IO Environment := do
  let content := (← readText "/proc/self/environ").getD ""
  let assignments := (Text.pieces '\x00' content.toList).filterMap Assignment.split?
  return assignments.map fun (name, value) => (String.ofList name, String.ofList value)

/-- The texts of the files at some paths, where there are files. -/
def readFiles : List String → IO (List (String × String))
  | [] => return []
  | path :: paths => do
    let files ← readFiles paths
    match ← readText path with
    | some content => return (path, content) :: files
    | none => return files

/-- The nearest file `.env`, in the working directory or above it. -/
def readVariableFile : IO (List (String × String)) := do
  let place := (← IO.FS.realPath ".").toString
  let levels := (Text.pieces '/' place.toList).length
  let paths := (List.range levels).map fun level =>
    String.join (List.replicate level "../") ++ ".env"
  let found ← readFiles paths
  return (found.take 1).map fun (_, content) => (".env", content)

/-- Whether a path is that of a directory, from which a step to itself is possible. -/
def isDirectory (path : String) : IO Bool := do
  try
    let _ ← IO.FS.realPath (path ++ "/.")
    return true
  catch _ => return false

/-- The directories among some paths, as they are listed beside files. -/
def readDirectories (paths : List String) : IO (List (String × String)) := do
  let directories ← paths.filterM isDirectory
  return directories.map fun path => (path ++ "/", "")

/-- Where the program runs.  The file `.env` is read first, for it may set the run mode. -/
def readSurroundings : IO Surroundings := do
  let environment ← readVariables
  let variableFile ← readVariableFile
  let start : Surroundings := ⟨environment, Dictionary.ofPairs variableFile⟩
  let candidates := start.fileNames.flatMap SettingsFile.candidates
  let directories ← readDirectories (candidates.flatMap SettingsFile.directories)
  let known := Dictionary.ofPairs directories
  let settingsFiles ← readFiles (candidates.filterMap (SettingsFile.resolve? known))
  return ⟨environment, Dictionary.ofPairs (variableFile ++ directories ++ settingsFiles)⟩

/-- The time by the clock. -/
def readClock : IO Moment := do
  let nanoseconds := (← Std.Time.Timestamp.now).toNanosecondsSinceUnixEpoch.val
  return Moment.ofEpoch (nanoseconds / 1000000000) (nanoseconds % 1000000000).toNat

/-- Where the program shows its texts.  No readers of other formats or of patterns are at hand. -/
def readHost : IO Host := do
  return { terminal := ← (← IO.getStdout).isTty }

/-- Shows what came of a run. -/
def report (now : Moment) (outcome : Outcome) : IO Unit := do
  let errors ← IO.getStderr
  if let .ran settings logged _ := outcome then
    logged.forM fun event => errors.putStr (event.logText settings.logging.json now)
  let output ← IO.getStdout
  output.write ⟨outcome.written.toArray⟩
  output.flush
  errors.putStr outcome.report

end CommandLine
end Stencil

/-- Runs the program with the arguments of the command line. -/
def main (arguments : List String) : IO UInt32 := do
  let now ← Stencil.CommandLine.readClock
  let surroundings ← Stencil.CommandLine.readSurroundings
  let outcome := Stencil.Program.run arguments surroundings now (← Stencil.CommandLine.readHost)
  Stencil.CommandLine.report now outcome
  return outcome.code.toUInt32
