import Stencil.Json.Decode
import Stencil.Settings.Basic

/-!
# Settings as JSON

Settings are written in full.  They are read from objects or from arrays of their parts, at both
levels, and parts that are missing have their defaults.
-/

namespace Stencil

namespace LoggingSettings

/-- The JSON value of the section. -/
def toJson (logging : LoggingSettings) : Json :=
  .ofPairs [("level", .string logging.level), ("json", .boolean logging.json)]

/-- Reads the section. -/
def ofJson : Decoder LoggingSettings
  | .object fields => do
    let json ← Decoder.boolean.field? fields "json"
    let level ← Decoder.string.field? fields "level"
    return ofParts level json
  | .array items => do
    let level ← Decoder.string.item? items 0
    let json ← Decoder.boolean.item? items 1
    Decoder.atMost 2 items
    return ofParts level json
  | found => .error (.wrongShape found (.record "LoggingConfig"))

end LoggingSettings

namespace TemplateSettings

/-- The JSON value of the section. -/
def toJson (template : TemplateSettings) : Json :=
  .ofPairs [("id_prefix", .string template.idPrefix)]

/-- Reads the section. -/
def ofJson : Decoder TemplateSettings
  | .object fields => do
    let idPrefix ← Decoder.string.field? fields "id_prefix"
    return ofParts idPrefix
  | .array items => do
    let idPrefix ← Decoder.string.item? items 0
    Decoder.atMost 1 items
    return ofParts idPrefix
  | found => .error (.wrongShape found (.record "TemplateSettings"))

end TemplateSettings

namespace Settings

/-- The JSON value of the settings. -/
def toJson (settings : Settings) : Json :=
  .ofPairs [("logging", settings.logging.toJson), ("template", settings.template.toJson)]

/-- Reads settings. -/
def ofJson : Decoder Settings
  | .object fields => do
    let logging ← LoggingSettings.ofJson.field? fields "logging"
    let template ← TemplateSettings.ofJson.field? fields "template"
    return ofParts logging template
  | .array items => do
    let logging ← LoggingSettings.ofJson.item? items 0
    let template ← TemplateSettings.ofJson.item? items 1
    Decoder.atMost 2 items
    return ofParts logging template
  | found => .error (.wrongShape found (.record "Settings"))

end Settings
end Stencil
