import Stencil.Proofs.Json.Records
import Stencil.Settings.Coding

/-!
# Settings from JSON values

Which values can be read as settings is decided by the form of the whole and of its sections, and by
the types of the three settings.  What is missing is filled in, so that settings may be written in
many ways: in full or in part, in objects or in arrays, among any other fields.
-/

namespace Stencil

namespace Decoder

variable {α : Type}

theorem string_eq_ok_iff {value : Json} {text : String} :
    string value = .ok text ↔ value = .string text := by
  cases value <;> simp [string]

theorem boolean_eq_ok_iff {value : Json} {truth : Bool} :
    boolean value = .ok truth ↔ value = .boolean truth := by
  cases value <;> simp [boolean]

theorem atMost_eq_ok_iff {limit : Nat} {items : List Json} {done : Unit} :
    atMost limit items = .ok done ↔ items.length ≤ limit := by
  rw [atMost]
  split <;> simp_all

/-- A part that may be missing can be read unless it is there and cannot be read. -/
theorem exists_orDefault_iff {decoder : Decoder α} (default : α) {part : Option Json} :
    (∃ value, decoder.orDefault default part = .ok value) ↔
      ∀ found, part = some found → ∃ value, decoder found = .ok value := by
  cases part <;> simp [orDefault]

end Decoder

/-! ## The section on logging -/

namespace LoggingSettings

/-- The names of the parts, in order, and the values that may be left out. -/
def layout : Json.Layout where
  names := ["level", "json"]
  IsDefault name value :=
    (name = "level" ∧ value = .string ({} : LoggingSettings).level) ∨
      (name = "json" ∧ value = .boolean ({} : LoggingSettings).json)

/-- Whether a value can be read as the section. -/
def IsReadable (value : Json) : Prop :=
  value.IsRecord layout.names ∧
    (∀ leaf, value.part? layout.names "level" = some leaf → ∃ text, leaf = .string text) ∧
    ∀ leaf, value.part? layout.names "json" = some leaf → ∃ truth, leaf = .boolean truth

variable {value first second : Json} {logging : LoggingSettings}

theorem ofJson_eq_ok_iff :
    ofJson value = .ok logging ↔
      value.IsRecord layout.names ∧
        Decoder.string.orDefault ({} : LoggingSettings).level
            (value.part? layout.names "level") = .ok logging.level ∧
          Decoder.boolean.orDefault ({} : LoggingSettings).json
            (value.part? layout.names "json") = .ok logging.json := by
  obtain ⟨level, json⟩ := logging
  cases value with
  | object fields =>
      simp only [ofJson, bind_eq_ok_iff, Json.IsRecord, Json.part?_object, Decoder.field?_eq,
        ofParts, pure, Except.pure, Except.ok.injEq, mk.injEq, Decoder.orDefault_eq_ok_iff]
      grind
  | array items =>
      have levelPlace : layout.names.idxOf "level" = 0 := by decide
      have jsonPlace : layout.names.idxOf "json" = 1 := by decide
      have size : layout.names.length = 2 := rfl
      simp only [ofJson, bind_eq_ok_iff, Json.IsRecord, Json.part?_array, levelPlace, jsonPlace,
        size, ofParts, pure, Except.pure, Except.ok.injEq, mk.injEq, Decoder.atMost_eq_ok_iff,
        Decoder.orDefault_eq_ok_iff, Decoder.item?_eq]
      grind
  | _ => simp [ofJson, Json.IsRecord]

theorem exists_ofJson_iff : (∃ logging, ofJson value = .ok logging) ↔ IsReadable value := by
  simp only [IsReadable, ← Decoder.string_eq_ok_iff, ← Decoder.boolean_eq_ok_iff,
    ← Decoder.exists_orDefault_iff ({} : LoggingSettings).level,
    ← Decoder.exists_orDefault_iff ({} : LoggingSettings).json, ofJson_eq_ok_iff]
  constructor
  · rintro ⟨logging, isRecord, level, json⟩
    exact ⟨isRecord, ⟨_, level⟩, _, json⟩
  · rintro ⟨isRecord, ⟨level, readLevel⟩, json, readJson⟩
    exact ⟨⟨level, json⟩, isRecord, readLevel, readJson⟩

theorem ofJson_restated (restated : Json.Restated layout first second) :
    ofJson first = .ok logging ↔ ofJson second = .ok logging := by
  rw [ofJson_eq_ok_iff, ofJson_eq_ok_iff, restated.isRecord_iff,
    Decoder.orDefault_restated _ restated (by decide) (by simp [layout, Decoder.string]),
    Decoder.orDefault_restated _ restated (by decide) (by simp [layout, Decoder.boolean])]

end LoggingSettings

/-! ## The section on templates -/

namespace TemplateSettings

/-- The name of the part, and the value that may be left out. -/
def layout : Json.Layout where
  names := ["id_prefix"]
  IsDefault name value := name = "id_prefix" ∧ value = .string ({} : TemplateSettings).idPrefix

/-- Whether a value can be read as the section. -/
def IsReadable (value : Json) : Prop :=
  value.IsRecord layout.names ∧
    ∀ leaf, value.part? layout.names "id_prefix" = some leaf → ∃ text, leaf = .string text

variable {value first second : Json} {template : TemplateSettings}

theorem ofJson_eq_ok_iff :
    ofJson value = .ok template ↔
      value.IsRecord layout.names ∧
        Decoder.string.orDefault ({} : TemplateSettings).idPrefix
          (value.part? layout.names "id_prefix") = .ok template.idPrefix := by
  obtain ⟨idPrefix⟩ := template
  cases value with
  | object fields =>
      simp only [ofJson, bind_eq_ok_iff, Json.IsRecord, Json.part?_object, Decoder.field?_eq,
        ofParts, pure, Except.pure, Except.ok.injEq, mk.injEq, Decoder.orDefault_eq_ok_iff,
        true_and]
  | array items =>
      have place : layout.names.idxOf "id_prefix" = 0 := by decide
      have size : layout.names.length = 1 := rfl
      simp only [ofJson, bind_eq_ok_iff, Json.IsRecord, Json.part?_array, place, size, ofParts,
        pure, Except.pure, Except.ok.injEq, mk.injEq, Decoder.atMost_eq_ok_iff,
        Decoder.orDefault_eq_ok_iff, Decoder.item?_eq]
      grind
  | _ => simp [ofJson, Json.IsRecord]

theorem exists_ofJson_iff : (∃ template, ofJson value = .ok template) ↔ IsReadable value := by
  simp only [IsReadable, ← Decoder.string_eq_ok_iff,
    ← Decoder.exists_orDefault_iff ({} : TemplateSettings).idPrefix, ofJson_eq_ok_iff]
  constructor
  · rintro ⟨template, isRecord, idPrefix⟩
    exact ⟨isRecord, _, idPrefix⟩
  · rintro ⟨isRecord, idPrefix, read⟩
    exact ⟨⟨idPrefix⟩, isRecord, read⟩

theorem ofJson_restated (restated : Json.Restated layout first second) :
    ofJson first = .ok template ↔ ofJson second = .ok template := by
  rw [ofJson_eq_ok_iff, ofJson_eq_ok_iff, restated.isRecord_iff,
    Decoder.orDefault_restated _ restated (by decide) (by simp [layout, Decoder.string])]

end TemplateSettings

/-! ## All settings -/

namespace Settings

/-- The names of the sections, in order, and the values that may be left out. -/
def layout : Json.Layout where
  names := ["logging", "template"]
  IsDefault name value :=
    (name = "logging" ∧ LoggingSettings.ofJson value = .ok {}) ∨
      (name = "template" ∧ TemplateSettings.ofJson value = .ok {})

/-- Whether a value can be read as settings. -/
def IsReadable (value : Json) : Prop :=
  value.IsRecord layout.names ∧
    (∀ part, value.part? layout.names "logging" = some part → LoggingSettings.IsReadable part) ∧
    ∀ part, value.part? layout.names "template" = some part → TemplateSettings.IsReadable part

variable {value : Json} {settings : Settings}

theorem ofJson_eq_ok_iff :
    ofJson value = .ok settings ↔
      value.IsRecord layout.names ∧
        LoggingSettings.ofJson.orDefault {} (value.part? layout.names "logging") =
            .ok settings.logging ∧
          TemplateSettings.ofJson.orDefault {} (value.part? layout.names "template") =
            .ok settings.template := by
  obtain ⟨logging, template⟩ := settings
  cases value with
  | object fields =>
      simp only [ofJson, bind_eq_ok_iff, Json.IsRecord, Json.part?_object, Decoder.field?_eq,
        ofParts, pure, Except.pure, Except.ok.injEq, mk.injEq, Decoder.orDefault_eq_ok_iff]
      grind
  | array items =>
      have loggingPlace : layout.names.idxOf "logging" = 0 := by decide
      have templatePlace : layout.names.idxOf "template" = 1 := by decide
      have size : layout.names.length = 2 := rfl
      simp only [ofJson, bind_eq_ok_iff, Json.IsRecord, Json.part?_array, loggingPlace,
        templatePlace, size, ofParts, pure, Except.pure, Except.ok.injEq, mk.injEq,
        Decoder.atMost_eq_ok_iff, Decoder.orDefault_eq_ok_iff, Decoder.item?_eq]
      grind
  | _ => simp [ofJson, Json.IsRecord]

theorem exists_ofJson_iff : (∃ settings, ofJson value = .ok settings) ↔ IsReadable value := by
  simp only [IsReadable, ← LoggingSettings.exists_ofJson_iff, ← TemplateSettings.exists_ofJson_iff,
    ← Decoder.exists_orDefault_iff ({} : LoggingSettings),
    ← Decoder.exists_orDefault_iff ({} : TemplateSettings), ofJson_eq_ok_iff]
  constructor
  · rintro ⟨settings, isRecord, logging, template⟩
    exact ⟨isRecord, ⟨_, logging⟩, _, template⟩
  · rintro ⟨isRecord, ⟨logging, readLogging⟩, template, readTemplate⟩
    exact ⟨⟨logging, template⟩, isRecord, readLogging, readTemplate⟩

/-- Settings are written in full as one object in another. -/
theorem toJson_eq (settings : Settings) :
    settings.toJson = .object
      [("logging", .object
          [("json", .boolean settings.logging.json), ("level", .string settings.logging.level)]),
        ("template", .object [("id_prefix", .string settings.template.idPrefix)])] := by
  have fields : "json" < "level" := by decide
  have sections : ¬ "template" < "logging" := by decide
  simp [toJson, LoggingSettings.toJson, TemplateSettings.toJson, Json.ofPairs, Entries.ofPairs,
    Entries.insert, fields, sections]

theorem ofJson_toJson (settings : Settings) : ofJson settings.toJson = .ok settings := by
  rw [toJson_eq]
  rfl

end Settings
end Stencil
