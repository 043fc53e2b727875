import Stencil.Dictionary
import Stencil.Settings.Entry
import Stencil.Text.Pieces

/-!
# Settings files

A settings file is known by a name.  If there is a file of exactly that name, its extension tells
the format.  Otherwise the extension of a format is added to the last step of the name.  A step of
two points leaves the directory before it, which must exist, and is kept in the path of the file.
Parts of a name that are empty or a single point lead nowhere, but count for its length.

Files in TOML and JSON are read here.  The readers of the other formats belong to libraries of their
own and are left out, and so is what settles the order in which formats are tried: it may be another
one in every process.  Both are given from outside, as a `FileLibrary`.
-/

namespace Stencil

/-- The formats of settings files. -/
inductive FileFormat where
  | toml
  | json
  | yaml
  | ini
  | ron
  | json5
deriving DecidableEq, Repr

namespace FileFormat

/-- The extensions of the files in a format. -/
def extensions : FileFormat → List String
  | toml => ["toml"]
  | json => ["json"]
  | yaml => ["yaml", "yml"]
  | ini => ["ini"]
  | ron => ["ron"]
  | json5 => ["json5"]

/-- All formats. -/
def all : List FileFormat :=
  [toml, json, yaml, ini, ron, json5]

/-- The format with an extension. -/
def ofExtension? (extension : List Char) : Option FileFormat :=
  all.find? fun format => format.extensions.any fun known => known.toList = extension

end FileFormat

/-- What is given from outside to read settings files. -/
structure FileLibrary where
  /-- The formats in the order in which they are tried. -/
  order : List FileFormat := FileFormat.all
  /-- Every format is tried once. -/
  order_perm : order.Perm FileFormat.all := by exact .refl _
  /-- The entry that a text stands for in a format other than TOML and JSON, with the path of the
  file as its source. -/
  read? : FileFormat → (path text : String) → Option Entry := fun _ _ _ => none

namespace FileLibrary

/-- The extensions that are tried, in their order, with their formats. -/
def extensions (library : FileLibrary) : List (FileFormat × String) :=
  library.order.flatMap fun format => format.extensions.map fun extension => (format, extension)

end FileLibrary

/-- A settings file. -/
structure SettingsFile where
  /-- The path from the working directory. -/
  path : String
  /-- The format. -/
  format : FileFormat
  /-- The text. -/
  content : String
deriving DecidableEq, Repr

namespace SettingsFile

/-- Whether there is a directory.  It has a path above that of a file, or a slash after it. -/
def isDirectory (files : Dictionary String) (steps : List String) : Bool :=
  let start := (String.intercalate "/" steps ++ "/").toList
  files.names.any fun path => start.isPrefixOf path.toList

/-- Walks steps from a directory, whose last step comes first. -/
def walk (files : Dictionary String) : (directory steps : List String) → Option (List String)
  | directory, [] => some directory
  | directory, step :: steps =>
    if step = ".." then
      if isDirectory files directory.reverse then walk files directory.tail steps else none
    else walk files (step :: directory) steps

/-- The path to which steps lead from the working directory, if they lead to a place below it. -/
def resolve? (files : Dictionary String) (steps : List String) : Option String :=
  (walk files [] steps).map fun directory => String.intercalate "/" directory.reverse

/-- Whether a part of a name leads to another place. -/
def isStep (part : String) : Bool :=
  part ≠ "" && part ≠ "."

/-- The greatest number of bytes in a name of a file. -/
def nameLimit : Nat := 4095

/-- The text of the file with the given parts of a name, if there is one.  Nothing is found under a
name that is too long. -/
def content? (files : Dictionary String) (parts : List String) : Option String :=
  if (String.intercalate "/" parts).utf8ByteSize ≤ nameLimit then
    (resolve? files (parts.filter isStep)).bind files.get?
  else none

/-- The parts of a name between slashes. -/
def parts (name : String) : List String :=
  (Text.pieces '/' name.toList).map String.ofList

/-- The parts of the name of a file.  A name whose last part is no step is that of a directory. -/
def exactParts? (name : String) : Option (List String) :=
  (parts name).getLast?.bind fun last => if isStep last then some (parts name) else none

/-- The parts of a name with an extension added to the last step. -/
def extendedParts? (name extension : String) : Option (List String) :=
  match (parts name).reverse.dropWhile fun part => !isStep part with
  | [] => none
  | last :: before =>
    if last = ".." then none else some (((last ++ "." ++ extension) :: before).reverse)

/-- What follows the last point in a step, unless the step starts with it. -/
def extension (step : String) : List Char :=
  let ending := (step.toList.reverse.takeWhile (· ≠ '.')).reverse
  if ending.length + 1 < step.length then ending else []

/-- The file with the given parts of a name. -/
def ofParts (parts : List String) (format : FileFormat) (content : String) : SettingsFile :=
  ⟨String.intercalate "/" (parts.filter isStep), format, content⟩

/-- The file with the given parts of a name, if its extension tells a format. -/
def named? (parts : List String) (content : String) : Option SettingsFile := do
  let last ← parts.getLast?
  let format ← FileFormat.ofExtension? (extension last)
  return ofParts parts format content

/-- The first file with the extension of a format added to a name. -/
def extended? (library : FileLibrary) (files : Dictionary String) (name : String) :
    Option SettingsFile :=
  library.extensions.findSome? fun (format, extension) => do
    let parts ← extendedParts? name extension
    let content ← content? files parts
    return ofParts parts format content

/-- The file with a name. -/
def find? (library : FileLibrary) (files : Dictionary String) (name : String) :
    Option SettingsFile :=
  match exactParts? name with
  | none => extended? library files name
  | some parts =>
    match content? files parts with
    | some content => named? parts content
    | none => extended? library files name

/-- The steps to the places at which the file with a name may be. -/
def candidates (name : String) : List (List String) :=
  let exact := (exactParts? name).toList
  let extended := (FileFormat.all.flatMap FileFormat.extensions).filterMap (extendedParts? name)
  (exact ++ extended).map (·.filter isStep)

/-- The directories that steps leave again, whose last step comes first. -/
def leftFrom : (directory steps : List String) → List (List String)
  | _, [] => []
  | directory, step :: steps =>
    if step = ".." then directory :: leftFrom directory.tail steps
    else leftFrom (step :: directory) steps

/-- The paths of the directories that steps leave again. -/
def directories (steps : List String) : List String :=
  (leftFrom [] steps).map fun directory => String.intercalate "/" directory.reverse

end SettingsFile
end Stencil
