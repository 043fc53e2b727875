import Stencil.Json.Decode
import Stencil.Settings.Basic
import Stencil.Settings.Entry
import Stencil.Text.LowerCase

/-!
# Settings from entries

The tree of entries is read as settings.  A text is also made from a truth value or a number, and a
truth value from a number, which is true unless zero, or from one of a few words in any case.
-/

namespace Stencil

/-- The ways in which settings cannot be had. -/
inductive SettingsError where
  /-- A variable cannot be set.  The process stops there. -/
  | unsettable (name : String)
  /-- A file cannot be read. -/
  | unreadable (path : String)
  /-- The entry under a key cannot be made into what is expected. -/
  | wrongType (found : Entry) (expected : Shape) (key : String)
  /-- An entry is no record of the kind that stands in its place. -/
  | wrongKind (found : Entry) (kind : String)

namespace Scalar

/-- How numbers are written as texts: positionally, and whole numbers without a point. -/
def style : Decimal.Style where
  isPositional _ := true
  keepsPoint := false
  tie := .away

/-- How numbers are written in messages: positionally, and always with a point. -/
def messageStyle : Decimal.Style where
  isPositional _ := true
  keepsPoint := true
  tie := .away

/-- A value in words. -/
def description : Scalar → String
  | null => "unit value"
  | boolean true => "boolean `true`"
  | boolean false => "boolean `false`"
  | integer value => "integer `" ++ value.repr ++ "`"
  | real value => "floating point `" ++ String.ofList (value.write messageStyle) ++ "`"
  | text value => "string " ++ Text.quoted value

/-- The text that a value is made into. -/
def toText? : Scalar → Option String
  | null => none
  | boolean true => some "true"
  | boolean false => some "false"
  | integer value => some value.repr
  | real value => some (String.ofList (value.write style))
  | text value => some value

/-- The truth value that a lower-case word stands for. -/
def truth? (word : String) : Option Bool :=
  if word = "1" ∨ word = "true" ∨ word = "on" ∨ word = "yes" then some true
  else if word = "0" ∨ word = "false" ∨ word = "off" ∨ word = "no" then some false
  else none

/-- The truth value that a value is made into. -/
def toBoolean? : Scalar → Option Bool
  | null => none
  | boolean value => some value
  | integer value => some (value ≠ 0)
  | real value => some !value.isZero
  | text value => truth? (Text.lower value)

end Scalar

namespace Entry

/-- An entry in words, shortened to its kind where it has parts. -/
def description : Entry → String
  | scalar _ value => value.description
  | array .. => "sequence"
  | table .. => "map"

/-- The entry with a text in lower case. -/
def lowered : Entry → Entry
  | scalar origin (.text value) => scalar origin (.text (Text.lower value))
  | entry => entry

/-- The text that the entry under a key is made into. -/
def toText (entry : Entry) (key : String) : Except SettingsError String :=
  match entry with
  | scalar origin value =>
    match value.toText? with
    | some text => .ok text
    | none => .error (.wrongType (scalar origin value) .string key)
  | entry => .error (.wrongType entry .string key)

/-- The truth value that the entry under a key is made into. -/
def toBoolean (entry : Entry) (key : String) : Except SettingsError Bool :=
  match entry with
  | scalar origin value =>
    match value.toBoolean? with
    | some value => .ok value
    | none => .error (.wrongType (scalar origin value).lowered .boolean key)
  | entry => .error (.wrongType entry .boolean key)

/-- The part of a record with a name, or at an index where the record is an array, and its key. -/
def part? (entry : Entry) (key name : String) (index : Nat) : Option (Entry × String) :=
  match entry with
  | scalar .. => none
  | array _ items => items[index]?.map fun item => (item, key ++ "[" ++ index.repr ++ "]")
  | table _ fields => (Entries.get? fields name).map fun field => (field, key ++ "." ++ name)

/-- Refuses an entry that is no record. -/
def isRecord (entry : Entry) (kind : String) : Except SettingsError Unit :=
  match entry with
  | scalar .. => .error (.wrongKind entry kind)
  | _ => .ok ()

/-- Reads a part that may be missing. -/
def optional {α : Type} (read : Entry → String → Except SettingsError α) :
    Option (Entry × String) → Except SettingsError (Option α)
  | none => .ok none
  | some (entry, key) => (read entry key).map some

end Entry

namespace SettingsError

/-- Whether the process stops instead of reporting the error. -/
def stops : SettingsError → Bool
  | unsettable _ => true
  | _ => false

/-- What is wrong, in words.  Where the process stops there are none, and what a reader says about
the text of a file is left out before its path. -/
def message : SettingsError → String
  | unsettable _ => ""
  | unreadable path => " in " ++ path
  | wrongType found expected key =>
    "invalid type: " ++ found.description ++ ", expected " ++ expected.description ++
      " for key `" ++ key ++ "`" ++
      (match found.origin with
        | none => ""
        | some origin => " in " ++ origin)
  | wrongKind found kind =>
    "invalid type: " ++ found.description ++ ", expected " ++ (Shape.record kind).description

end SettingsError

namespace LoggingSettings

/-- Reads the section under a key. -/
def ofEntry (entry : Entry) (key : String) : Except SettingsError LoggingSettings := do
  entry.isRecord "LoggingConfig"
  let level ← Entry.optional Entry.toText (entry.part? key "level" 0)
  let json ← Entry.optional Entry.toBoolean (entry.part? key "json" 1)
  return ofParts level json

end LoggingSettings

namespace TemplateSettings

/-- Reads the section under a key. -/
def ofEntry (entry : Entry) (key : String) : Except SettingsError TemplateSettings := do
  entry.isRecord "TemplateSettings"
  let idPrefix ← Entry.optional Entry.toText (entry.part? key "id_prefix" 0)
  return ofParts idPrefix

end TemplateSettings

namespace Settings

/-- Reads settings from the tree of all entries. -/
def ofEntry (entry : Entry) : Except SettingsError Settings := do
  let section? (name : String) : Option (Entry × String) :=
    (entry.get? name).map fun field => (field, name)
  let logging ← Entry.optional LoggingSettings.ofEntry (section? "logging")
  let template ← Entry.optional TemplateSettings.ofEntry (section? "template")
  return ofParts logging template

end Settings
end Stencil
