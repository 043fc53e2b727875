import Stencil.Json.Nesting
import Stencil.Json.Reader
import Stencil.Settings.Environment
import Stencil.Settings.Extract
import Stencil.Settings.File
import Stencil.Settings.VariableFile
import Stencil.Toml.Reader

/-!
# Loading settings

Settings come from layers, of which a later one wins: the defaults, the file `config/default`, the
file of the run mode, and the environment.  The file `.env` is read first and completes the
environment, and the environment names the run mode.  The process stops at a variable of `.env` that
cannot be set.
-/

namespace Stencil

/-- Where the program runs. -/
structure Surroundings where
  /-- The variables of the environment. -/
  environment : Environment
  /-- The texts of the files below the working directory, by their paths.  A directory may be listed
  too, without a text and with a slash after its path.  Under `.env` stands the nearest file of that
  name, which may also lie in a directory above. -/
  files : Dictionary String

namespace Entry

/-- The number of an integer of 64 bits, or the nearest number to another integer. -/
def ofInteger (value : Int) : Scalar :=
  if Scalar.isInRange value then .integer value
  else .real (Binary64.ofDecimal ⟨value < 0, value.natAbs, 0⟩)

mutual

/-- The entry that a JSON value stands for. -/
def ofJson (origin : Option String) : Json → Entry
  | .null => scalar origin .null
  | .boolean value => scalar origin (.boolean value)
  | .number (.integer value) => scalar origin (ofInteger value)
  | .number (.real value) => scalar origin (.real value)
  | .string text => scalar origin (.text text)
  | .array items => array origin (ofItems origin items)
  | .object fields => table origin (ofFields origin fields)

/-- The entries that JSON values stand for. -/
def ofItems (origin : Option String) : List Json → List Entry
  | [] => []
  | item :: items => ofJson origin item :: ofItems origin items

/-- The entries that JSON fields stand for. -/
def ofFields (origin : Option String) : List (String × Json) → List (String × Entry)
  | [] => []
  | (name, value) :: fields => (name, ofJson origin value) :: ofFields origin fields

end

end Entry

namespace SettingsFile

/-- The greatest number of arrays and objects inside each other in a JSON file. -/
def nestingLimit : Nat := 127

/-- The entry that the text of a file stands for. -/
def entry? (library : FileLibrary) (file : SettingsFile) : Option Entry :=
  let text := file.content.toList
  match file.format with
  | .json =>
    if Json.nesting text ≤ nestingLimit then (Json.read? text).map (Entry.ofJson file.path)
    else none
  | .toml => do
    let document ← Toml.read? (Text.withoutMark text)
    document.toEntry? file.path
  | format => library.read? format file.path file.content

/-- What a file says.  It must hold a table. -/
def layer (library : FileLibrary) (file : SettingsFile) : Except SettingsError Layer :=
  match file.entry? library with
  | some (.table _ fields) => .ok fields
  | _ => .error (.unreadable file.path)

end SettingsFile

namespace Layer

/-- What is said when nothing else is. -/
def defaults : Layer :=
  let settings : Settings := {}
  [("logging.level", .scalar none (.text settings.logging.level)),
    ("logging.json", .scalar none (.boolean settings.logging.json)),
    ("template.id_prefix", .scalar none (.text settings.template.idPrefix))]

/-- What the file with a name says.  A file that does not exist says nothing. -/
def ofFile (library : FileLibrary) (files : Dictionary String) (name : String) :
    Except SettingsError Layer :=
  match SettingsFile.find? library files name with
  | none => .ok []
  | some file => file.layer library

/-- Puts what a layer says on top of a tree of entries. -/
def applyTo (layer : Layer) (target : Entry) : Entry :=
  layer.foldl (fun target said => Entry.setAt said.2 (Path.ofKey said.1) target) target

/-- The tree of entries of layers, of which a later one wins.  The sources are merged with each
other before they are put on top of the defaults. -/
def merge (sources : List Layer) : Entry :=
  let said := sources.foldl (fun target layer => layer.applyTo target) Entry.emptyTable
  applyTo said.fields (defaults.applyTo Entry.emptyTable)

end Layer

namespace Surroundings

/-- The environment, completed by the file `.env`. -/
def completed (surroundings : Surroundings) : Environment :=
  match surroundings.files.get? ".env" with
  | some text => VariableFile.apply text surroundings.environment
  | none => surroundings.environment

/-- The run mode. -/
def runMode (surroundings : Surroundings) : String :=
  (surroundings.completed.get? "RUN_MODE").getD "development"

/-- The names of the settings files, from the least important on. -/
def fileNames (surroundings : Surroundings) : List String :=
  ["config/default", "config/" ++ surroundings.runMode]

/-- A variable of the file `.env` whose value cannot be set, for it has the character zero. -/
def unsettable? (surroundings : Surroundings) : Option String :=
  (surroundings.completed.find? fun (_, value) => value.toList.contains '\x00').map (·.1)

/-- What the settings files and the environment say. -/
def sources (surroundings : Surroundings) (library : FileLibrary) :
    Except SettingsError (List Layer) := do
  let layers ← surroundings.fileNames.mapM (Layer.ofFile library surroundings.files)
  return layers ++ [Layer.ofEnvironment surroundings.completed]

end Surroundings

namespace Settings

/-- The settings of the place where the program runs. -/
def load (surroundings : Surroundings) (library : FileLibrary := {}) :
    Except SettingsError Settings :=
  match surroundings.unsettable? with
  | some name => .error (.unsettable name)
  | none => do
    let sources ← surroundings.sources library
    ofEntry (Layer.merge sources)

end Settings
end Stencil
