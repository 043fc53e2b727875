import Stencil.Proofs.Settings.Extraction
import Stencil.Proofs.Settings.VariableFile

/-!
# The source that decides

Each setting has the value of the first of environment, run mode file, default file and built-in
value that defines it.  Whatever is below makes no difference, not even to the message of an error.
-/

namespace Stencil

theorem Layer.mem_ofEnvironment_iff {environment : Environment} {said : String × Entry} :
    said ∈ ofEnvironment environment ↔
      ∃ assignment ∈ environment, keyOf? assignment.1 = some said.1 ∧
        said.2 = .scalar (some environmentOrigin) (Scalar.ofVariable assignment.2) := by
  obtain ⟨key, value⟩ := said
  constructor
  · intro member
    obtain ⟨assignment, inside, speaks⟩ := List.mem_filterMap.1 member
    obtain ⟨other, isKey, same⟩ := Option.map_eq_some_iff.1 speaks
    obtain ⟨rfl, rfl⟩ := Prod.mk.inj same
    exact ⟨assignment, inside, isKey, rfl⟩
  · rintro ⟨assignment, inside, isKey, rfl⟩
    refine List.mem_filterMap.2 ⟨assignment, inside, ?_⟩
    exact Option.map_eq_some_iff.2 ⟨key, isKey, rfl⟩

namespace Surroundings

/-- Whether the settings files hold two given layers, and variables and layers speak of the settings
in an orderly way. -/
structure Orderly (surroundings : Surroundings) (library : FileLibrary) (standard mode : Layer) :
    Prop where
  /-- The variables of the file `.env` can be set. -/
  settable : surroundings.unsettable? = none
  /-- The default file holds the first layer. -/
  standard_eq : Layer.ofFile library surroundings.files "config/default" = .ok standard
  /-- The file of the run mode holds the second layer. -/
  mode_eq : Layer.ofFile library surroundings.files ("config/" ++ surroundings.runMode) = .ok mode
  /-- The first layer is orderly. -/
  standard_orderly : standard.Orderly
  /-- The second layer is orderly. -/
  mode_orderly : mode.Orderly
  /-- A variable about the settings names one of them. -/
  key_eq : ∀ assignment ∈ surroundings.completed, ∀ key, Layer.keyOf? assignment.1 = some key →
    ∃ setting : Setting, key = setting.key
  /-- The variables about the settings differ in more than the case of their letters. -/
  nodup : ((surroundings.completed.filter fun assignment =>
    (Layer.keyOf? assignment.1).isSome).map fun assignment => Text.lower assignment.1).Nodup

/-- The layers with settings, from the most important on. -/
def layers (surroundings : Surroundings) (standard mode : Layer) : List Layer :=
  [Layer.ofEnvironment surroundings.completed, mode, standard]

/-- The file `.env` adds variables that are not set. -/
theorem extends_completed (surroundings : Surroundings) :
    surroundings.completed.Extends surroundings.environment := by
  rw [completed]
  cases surroundings.files.get? ".env" with
  | none => exact Environment.Extends.refl _
  | some text => exact VariableFile.extends_apply text surroundings.environment

namespace Orderly

variable {surroundings : Surroundings} {library : FileLibrary} {standard mode : Layer}

theorem environment_orderly (orderly : surroundings.Orderly library standard mode) :
    (Layer.ofEnvironment surroundings.completed).Orderly := by
  apply Layer.Orderly.of_keys
  intro said member
  obtain ⟨assignment, inside, isKey, -⟩ := Layer.mem_ofEnvironment_iff.1 member
  exact orderly.key_eq assignment inside said.1 isKey

/-- Settings are loaded from what the layers define for them. -/
theorem load_message (orderly : surroundings.Orderly library standard mode) :
    (Settings.load surroundings library).mapError SettingsError.message =
      (Settings.ofEntries fun setting =>
        (setting.choice (surroundings.layers standard mode)).unsourced).mapError
          SettingsError.message := by
  let sources := [standard, mode, Layer.ofEnvironment surroundings.completed]
  have sourced : surroundings.sources library = .ok sources := by
    rw [Surroundings.sources, fileNames, List.mapM_cons, List.mapM_cons, List.mapM_nil,
      orderly.standard_eq, orderly.mode_eq]
    rfl
  have loaded : Settings.load surroundings library = Settings.ofEntry (Layer.merge sources) := by
    rw [Settings.load, orderly.settable, sourced]
    rfl
  have agrees : (Layer.merge sources).Agrees fun setting =>
      some (setting.choice (surroundings.layers standard mode)) := by
    apply Layer.agrees_merge
    intro layer member
    simp only [sources, List.mem_cons, List.not_mem_nil, or_false] at member
    rcases member with rfl | rfl | rfl
    · exact orderly.standard_orderly
    · exact orderly.mode_orderly
    · exact orderly.environment_orderly
  have stands : ∀ setting, ∃ entry, (Layer.merge sources).at? setting = some entry := by
    intro setting
    exact (agrees.shows setting).exists_eq_some
  choose entry found using stands
  have shows : ∀ setting, Entry.Shows (some (entry setting))
      (some (setting.choice (surroundings.layers standard mode))) := by
    intro setting
    rw [← found setting]
    exact agrees.shows setting
  -- A table in the tree has lost its source and may have gained fields, but no message tells.
  rw [loaded, Settings.ofEntry_eq_ofEntries _ found]
  · apply Settings.ofEntries_message_congr
    · exact fun setting key => (shows setting).toText_eq key
    · exact fun setting key => (shows setting).toBoolean_eq key
  · exact fun setting part isPart => (agrees.tidy setting part isPart).eq_table

theorem load_eq_ok_iff (orderly : surroundings.Orderly library standard mode)
    {settings : Settings} :
    Settings.load surroundings library = .ok settings ↔
      (Setting.level.choice (surroundings.layers standard mode)).toText Setting.level.key =
        .ok settings.logging.level ∧
      (Setting.json.choice (surroundings.layers standard mode)).toBoolean Setting.json.key =
        .ok settings.logging.json ∧
      (Setting.idPrefix.choice (surroundings.layers standard mode)).toText Setting.idPrefix.key =
        .ok settings.template.idPrefix := by
  rw [eq_ok_iff_of_mapError orderly.load_message, Settings.ofEntries_eq_ok_iff,
    Entry.toText_unsourced_iff, Entry.toBoolean_unsourced_iff, Entry.toText_unsourced_iff]

/-- What a variable of the process says about a setting is what the environment defines for it. -/
theorem value?_environment (orderly : surroundings.Orderly library standard mode)
    {name value : String} (found : surroundings.environment.get? name = some value) {setting : Setting}
    (isKey : Layer.keyOf? name = some setting.key)
    (alike : ∀ assignment ∈ surroundings.completed,
      Layer.keyOf? assignment.1 = some setting.key → Text.lower assignment.1 = Text.lower name) :
    (Layer.ofEnvironment surroundings.completed).value? setting =
      some (.scalar (some Layer.environmentOrigin) (Scalar.ofVariable value)) := by
  have isSet : (name, value) ∈ surroundings.completed :=
    Entries.mem_of_get? (surroundings.extends_completed.get?_eq found)
  -- A variable that is set again under a name in other case would come later and decide.
  have only : ∀ assignment ∈ surroundings.completed,
      Layer.keyOf? assignment.1 = some setting.key → assignment = (name, value) := by
    intro assignment member sameKey
    apply List.inj_on_of_nodup_map orderly.nodup
    · simp [member, sameKey]
    · simp [isSet, isKey]
    · exact alike assignment member sameKey
  let given := Entry.scalar (some Layer.environmentOrigin) (Scalar.ofVariable value)
  apply Entry.saidLast_of_forall rfl
  · have speaks : (setting.key, given) ∈ Layer.ofEnvironment surroundings.completed :=
      Layer.mem_ofEnvironment_iff.2 ⟨(name, value), isSet, isKey, rfl⟩
    refine List.mem_flatMap.2 ⟨(setting.key, given), speaks, ?_⟩
    rw [Layer.valuesUnder, if_neg (setting.sectionName_ne_key setting).symm, if_pos rfl]
    exact List.mem_singleton_self given
  · intro other member
    obtain ⟨said, inside, gives⟩ := List.mem_flatMap.1 member
    obtain ⟨assignment, isAssigned, named, isGiven⟩ := Layer.mem_ofEnvironment_iff.1 inside
    obtain ⟨another, isKey⟩ := orderly.key_eq assignment isAssigned said.1 named
    have notSection : said.1 ≠ setting.sectionName :=
      isKey ▸ (setting.sectionName_ne_key another).symm
    rw [Layer.valuesUnder, if_neg notSection] at gives
    split at gives
    next sameKey =>
      rw [List.mem_singleton.1 gives, isGiven,
        only assignment isAssigned (named.trans (congrArg some sameKey))]
    next => exact absurd gives List.not_mem_nil

end Orderly
end Surroundings

namespace Settings

/-- The readers of a library that knows one text in YAML. -/
def yamlLibrary : FileLibrary where
  read? format path text :=
    let json := Entry.scalar (some path) (.boolean true)
    if format = .yaml ∧ text = "logging:\n  json: true\n" then
      some (.table (some path) [("logging", .table (some path) [("json", json)])])
    else none

/-- A place where a file says something of the wrong type, and `.env` something else, about
variables of the process. -/
def overridden : Surroundings where
  environment := [("RUN_MODE", "test"), ("GUNIT_LOGGING__LEVEL", "debug")]
  files := .ofPairs [(".env", "RUN_MODE=other\nGUNIT_LOGGING__LEVEL=trace\n"),
    ("config/default.json", "\x7b\"logging\":\x7b\"level\":[]\x7d\x7d"),
    ("config/test.yaml", "logging:\n  json: true\n")]

/-- The same place with no file but that of the run mode. -/
def undisturbed : Surroundings where
  environment := overridden.environment
  files := .ofPairs [("config/test.yaml", "logging:\n  json: true\n")]

/-- What the default file says in the first place. -/
def levelLayer : Layer :=
  let source := some "config/default.json"
  [("logging", .table source [("level", .array source [])])]

/-- The truth value that the file of the run mode gives in both places. -/
def shownJson : Entry :=
  .scalar (some "config/test.yaml") (.boolean true)

/-- What the file of the run mode says in both places. -/
def jsonLayer : Layer :=
  [("logging", .table (some "config/test.yaml") [("json", shownJson)])]

/-- What the environment says in both places. -/
def debugEntry : Entry :=
  .scalar (some Layer.environmentOrigin) (.text "debug")

theorem completed_overridden : overridden.completed = overridden.environment := by
  decide +kernel

theorem ofEnvironment_overridden :
    Layer.ofEnvironment overridden.environment = [("logging.level", debugEntry)] := by
  cbv

theorem key_eq_of_overridden (assignment : String × String)
    (member : assignment ∈ overridden.environment) (key : String)
    (isKey : Layer.keyOf? assignment.1 = some key) : ∃ setting : Setting, key = setting.key := by
  have names : ∀ assignment ∈ overridden.environment, Layer.keyOf? assignment.1 = none ∨
      Layer.keyOf? assignment.1 = some Setting.level.key := by decide +kernel
  rcases names assignment member with isNone | isLevel
  · exact absurd (isKey.symm.trans isNone) (Option.some_ne_none key)
  · exact ⟨.level, Option.some.inj (isKey.symm.trans isLevel)⟩

theorem nodup_overridden : ((overridden.environment.filter fun assignment =>
    (Layer.keyOf? assignment.1).isSome).map fun assignment => Text.lower assignment.1).Nodup := by
  decide +kernel

theorem orderly_overridden : overridden.Orderly yamlLibrary levelLayer jsonLayer := by
  refine ⟨by cbv, by cbv, by cbv, .of_field .level _ _, .of_field .json _ _, ?_, ?_⟩
  · rw [completed_overridden]
    exact key_eq_of_overridden
  · rw [completed_overridden]
    exact nodup_overridden

theorem orderly_undisturbed : undisturbed.Orderly yamlLibrary [] jsonLayer :=
  ⟨by cbv, by cbv, by cbv, .nil, .of_field .json _ _, key_eq_of_overridden, nodup_overridden⟩

/-- A place where a file says something without parts about a setting. -/
def blank : Surroundings where
  environment := []
  files := .ofPairs [("config/default.json", "\x7b\"logging\":\x7b\"level\":\x7b\x7d\x7d\x7d")]

/-- A place without settings, where a variable of `.env` cannot be set. -/
def unsettable : Surroundings where
  environment := []
  files := .ofPairs [(".env", "A=\x00\n")]

end Settings
end Stencil
