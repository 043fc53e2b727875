import Stencil.Proofs.Settings.Layers

/-!
# Settings in a tree

Settings are read from a tree in which something stands for each of them.  Whether it can be read,
and what the error says otherwise, depends on what was said last only.
-/

namespace Stencil

theorem mapError_bind {ε δ α β : Type} (message : ε → δ) (first : Except ε α)
    (next : α → Except ε β) :
    (first >>= next).mapError message =
      first.mapError message >>= fun value => (next value).mapError message := by
  cases first <;> rfl

theorem eq_ok_iff_of_mapError {ε δ α : Type} {message : ε → δ} {first second : Except ε α}
    (same : first.mapError message = second.mapError message) {value : α} :
    first = .ok value ↔ second = .ok value := by
  cases first <;> cases second <;> simp_all [Except.mapError]

namespace Entry

/-- An entry as it is found in a tree, where a table comes from no source. -/
def unsourced : Entry → Entry
  | table _ fields => table none fields
  | entry => entry

theorem toText_unsourced_iff {entry : Entry} {key text : String} :
    entry.unsourced.toText key = .ok text ↔ entry.toText key = .ok text := by
  cases entry with
  | scalar origin value => exact Iff.rfl
  | array origin items => exact Iff.rfl
  | table origin fields => simp [unsourced, toText]

theorem toBoolean_unsourced_iff {entry : Entry} {key : String} {truth : Bool} :
    entry.unsourced.toBoolean key = .ok truth ↔ entry.toBoolean key = .ok truth := by
  cases entry with
  | scalar origin value => exact Iff.rfl
  | array origin items => exact Iff.rfl
  | table origin fields => simp [unsourced, toBoolean]

/-- A part of a record that is a table is what stands in it. -/
theorem part?_eq {entry value : Entry} {name : String} (isTable : entry = table none entry.fields)
    (found : entry.get? name = some value) (key : String) (index : Nat) :
    entry.part? key name index = some (value, key ++ "." ++ name) := by
  rw [isTable, part?]
  rw [get?] at found
  rw [found, Option.map_some]

theorem isRecord_eq {entry : Entry} (isTable : entry = table none entry.fields) (kind : String) :
    entry.isRecord kind = .ok () := by
  rw [isTable, isRecord]
  exact fun _ _ same => nomatch same

namespace Shows

variable {entry value : Entry}

theorem toText_eq (shows : Shows (some entry) (some value)) (key : String) :
    (entry.toText key).mapError SettingsError.message =
      (value.unsourced.toText key).mapError SettingsError.message := by
  cases shows <;> rfl

theorem toBoolean_eq (shows : Shows (some entry) (some value)) (key : String) :
    (entry.toBoolean key).mapError SettingsError.message =
      (value.unsourced.toBoolean key).mapError SettingsError.message := by
  cases shows <;> rfl

end Shows
end Entry

theorem LoggingSettings.ofEntry_eq {part level json : Entry}
    (isTable : part = .table none part.fields)
    (levelFound : part.get? Setting.level.fieldName = some level)
    (jsonFound : part.get? Setting.json.fieldName = some json) :
    ofEntry part "logging" = do
      let level ← level.toText Setting.level.key
      let json ← json.toBoolean Setting.json.key
      return ⟨level, json⟩ := by
  have levelPart : part.part? "logging" "level" 0 = some (level, Setting.level.key) :=
    Entry.part?_eq isTable levelFound "logging" 0
  have jsonPart : part.part? "logging" "json" 1 = some (json, Setting.json.key) :=
    Entry.part?_eq isTable jsonFound "logging" 1
  rw [ofEntry, Entry.isRecord_eq isTable, levelPart, jsonPart, Entry.optional, Entry.optional]
  cases level.toText Setting.level.key with
  | error error => rfl
  | ok level => cases json.toBoolean Setting.json.key <;> rfl

theorem TemplateSettings.ofEntry_eq {part idPrefix : Entry}
    (isTable : part = .table none part.fields)
    (found : part.get? Setting.idPrefix.fieldName = some idPrefix) :
    ofEntry part "template" = do
      let idPrefix ← idPrefix.toText Setting.idPrefix.key
      return ⟨idPrefix⟩ := by
  have prefixPart : part.part? "template" "id_prefix" 0 = some (idPrefix, Setting.idPrefix.key) :=
    Entry.part?_eq isTable found "template" 0
  rw [ofEntry, Entry.isRecord_eq isTable, prefixPart, Entry.optional]
  cases idPrefix.toText Setting.idPrefix.key <;> rfl

namespace Settings

/-- The settings whose values are made from given entries. -/
def ofEntries (entry : Setting → Entry) : Except SettingsError Settings := do
  let level ← (entry .level).toText Setting.level.key
  let json ← (entry .json).toBoolean Setting.json.key
  let idPrefix ← (entry .idPrefix).toText Setting.idPrefix.key
  return ⟨⟨level, json⟩, ⟨idPrefix⟩⟩

theorem ofEntries_eq_ok_iff {entry : Setting → Entry} {settings : Settings} :
    ofEntries entry = .ok settings ↔
      (entry .level).toText Setting.level.key = .ok settings.logging.level ∧
      (entry .json).toBoolean Setting.json.key = .ok settings.logging.json ∧
      (entry .idPrefix).toText Setting.idPrefix.key = .ok settings.template.idPrefix := by
  obtain ⟨⟨level, json⟩, ⟨idPrefix⟩⟩ := settings
  rw [ofEntries]
  cases (entry .level).toText Setting.level.key with
  | error error => simp [bind, Except.bind]
  | ok level =>
      cases (entry .json).toBoolean Setting.json.key with
      | error error => simp [bind, Except.bind]
      | ok json =>
          cases (entry .idPrefix).toText Setting.idPrefix.key with
          | error error => simp [bind, Except.bind]
          | ok idPrefix => simp [bind, Except.bind, pure, Except.pure, and_assoc]

theorem ofEntries_message_congr {entry other : Setting → Entry}
    (text : ∀ setting key, ((entry setting).toText key).mapError SettingsError.message =
      ((other setting).toText key).mapError SettingsError.message)
    (truth : ∀ setting key, ((entry setting).toBoolean key).mapError SettingsError.message =
      ((other setting).toBoolean key).mapError SettingsError.message) :
    (ofEntries entry).mapError SettingsError.message =
      (ofEntries other).mapError SettingsError.message := by
  simp only [ofEntries, mapError_bind, text, truth]

/-- A tree with all settings is read as what stands in it. -/
theorem ofEntry_eq_ofEntries {tree : Entry} {entry : Setting → Entry}
    (isTable : ∀ (setting : Setting) part, tree.get? setting.sectionName = some part →
      part = .table none part.fields)
    (found : ∀ setting, tree.at? setting = some (entry setting)) :
    ofEntry tree = ofEntries entry := by
  obtain ⟨logging, isLogging, levelFound⟩ := Option.bind_eq_some_iff.1 (found .level)
  obtain ⟨other, isOther, jsonFound⟩ := Option.bind_eq_some_iff.1 (found .json)
  obtain ⟨template, isTemplate, prefixFound⟩ := Option.bind_eq_some_iff.1 (found .idPrefix)
  obtain rfl : logging = other := Option.some.inj (isLogging.symm.trans isOther)
  have loggingPart : tree.get? "logging" = some logging := isLogging
  have templatePart : tree.get? "template" = some template := isTemplate
  have loggingRead := LoggingSettings.ofEntry_eq (isTable .level logging isLogging)
    levelFound jsonFound
  have templateRead := TemplateSettings.ofEntry_eq (isTable .idPrefix template isTemplate)
    prefixFound
  simp only [ofEntry, loggingPart, templatePart, Option.map_some, Entry.optional, loggingRead,
    templateRead, ofEntries]
  cases (entry .level).toText Setting.level.key with
  | error error => rfl
  | ok level =>
      cases (entry .json).toBoolean Setting.json.key with
      | error error => rfl
      | ok json => cases (entry .idPrefix).toText Setting.idPrefix.key <;> rfl

end Settings
end Stencil
