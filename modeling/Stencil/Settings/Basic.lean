import Stencil.TemplateId

/-!
# Settings

The settings say what is logged and how identifiers are made.  Whatever is not set has a default.
-/

namespace Stencil

/-- What is logged, and how. -/
structure LoggingSettings where
  /-- The directives of the log filter, when the environment has none. -/
  level : String := "info"
  /-- Whether the log consists of JSON lines. -/
  json : Bool := false
deriving DecidableEq, Repr

namespace LoggingSettings

/-- The section with some of its parts given. -/
def ofParts (level : Option String) (json : Option Bool) : LoggingSettings where
  level := level.getD ({} : LoggingSettings).level
  json := json.getD ({} : LoggingSettings).json

end LoggingSettings

/-- How templates are processed. -/
structure TemplateSettings where
  /-- The prefix of made identifiers. -/
  idPrefix : String := TemplateId.defaultPrefix
deriving DecidableEq, Repr

namespace TemplateSettings

/-- The section with some of its parts given. -/
def ofParts (idPrefix : Option String) : TemplateSettings where
  idPrefix := idPrefix.getD ({} : TemplateSettings).idPrefix

end TemplateSettings

/-- All settings. -/
structure Settings where
  /-- What is logged, and how. -/
  logging : LoggingSettings := {}
  /-- How templates are processed. -/
  template : TemplateSettings := {}
deriving DecidableEq, Repr

namespace Settings

/-- The settings with some of their sections given. -/
def ofParts (logging : Option LoggingSettings) (template : Option TemplateSettings) :
    Settings where
  logging := logging.getD {}
  template := template.getD {}

end Settings
end Stencil
