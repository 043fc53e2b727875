import Stencil.Proofs.Settings.Keys
import Stencil.Proofs.Settings.Merging
import Stencil.Settings.Load

/-!
# Layers of settings

Each setting is a field of a section.  A tree to which layers are applied one after the other shows
what they said last about every setting, as long as they speak of the sections in tables only.
-/

namespace Stencil

/-- One of the settings. -/
inductive Setting where
  /-- The directives of the log filter. -/
  | level
  /-- Whether the log consists of JSON lines. -/
  | json
  /-- The prefix of made identifiers. -/
  | idPrefix
deriving DecidableEq, Repr

namespace Setting

/-- The section to which the setting belongs. -/
def sectionName : Setting → String
  | level => "logging"
  | json => "logging"
  | idPrefix => "template"

/-- The name of the setting in its section. -/
def fieldName : Setting → String
  | level => "level"
  | json => "json"
  | idPrefix => "id_prefix"

/-- The key of the setting. -/
def key (setting : Setting) : String :=
  setting.sectionName ++ "." ++ setting.fieldName

/-- The value of the setting when nothing is said about it. -/
def builtIn : Setting → Entry
  | level => .scalar none (.text "info")
  | json => .scalar none (.boolean false)
  | idPrefix => .scalar none (.text "template")

theorem fieldName_ne {setting other : Setting} (different : other ≠ setting)
    (sameSection : other.sectionName = setting.sectionName) :
    other.fieldName ≠ setting.fieldName := by
  cases setting <;> cases other <;> simp_all [sectionName, fieldName]

theorem key_injective {setting other : Setting} (same : setting.key = other.key) :
    setting = other := by
  cases setting <;> cases other <;> first | rfl | exact absurd same (by decide +kernel)

theorem sectionName_ne_key (setting other : Setting) : setting.sectionName ≠ other.key := by
  cases setting <;> cases other <;> decide +kernel

theorem isPlain_sectionName (setting : Setting) : Path.IsPlain setting.sectionName := by
  cases setting <;> (unfold Path.IsPlain; decide +kernel)

theorem ofKey_key (setting : Setting) :
    Path.ofKey setting.key = [.name setting.sectionName, .name setting.fieldName] := by
  cases setting <;> decide +kernel

theorem lower_key (setting : Setting) : Text.lower setting.key = setting.key := by
  cases setting <;> decide +kernel

theorem lower_fieldName (setting : Setting) :
    Text.lower setting.fieldName = setting.fieldName := by
  cases setting <;> decide +kernel

end Setting

namespace Entry

/-- What stands in a tree for a setting. -/
def at? (tree : Entry) (setting : Setting) : Option Entry :=
  (tree.get? setting.sectionName).bind (·.get? setting.fieldName)

theorem at?_put (tree : Entry) (name : String) (value : Entry) (setting : Setting) :
    (tree.put name value).at? setting =
      if setting.sectionName = name then value.get? setting.fieldName else tree.at? setting := by
  rw [at?, get?_put]
  split <;> rfl

/-- Whether a tree shows what was said last about every setting. -/
structure Agrees (tree : Entry) (said : Setting → Option Entry) : Prop where
  /-- The names in the tree are in order. -/
  sorted : Entries.Sorted tree.fields
  /-- The names in the tree lead to themselves. -/
  plain : ∀ field ∈ tree.fields, Path.IsPlain field.1
  /-- The sections are tables merged from several sources. -/
  tidy : ∀ (setting : Setting) entry, tree.get? setting.sectionName = some entry → entry.Tidy
  /-- The tree shows what was said last. -/
  shows : ∀ setting, Shows (tree.at? setting) (said setting)

theorem agrees_emptyTable : emptyTable.Agrees fun _ => none where
  sorted := List.Pairwise.nil
  plain := by simp [emptyTable, fields]
  tidy := by simp [emptyTable, get?, fields, Entries.get?]
  shows := fun _ => .nothing

namespace Agrees

variable {tree : Entry} {said : Setting → Option Entry}

theorem congr (agrees : tree.Agrees said) {other : Setting → Option Entry}
    (same : ∀ setting, other setting = said setting) : tree.Agrees other := by
  have equal : other = said := funext same
  rwa [equal]

/-- The section of a setting, which is an empty table if there is none. -/
theorem tidy_section (agrees : tree.Agrees said) (setting : Setting) :
    ((tree.get? setting.sectionName).getD emptyTable).Tidy := by
  cases found : tree.get? setting.sectionName with
  | none => exact tidy_emptyTable
  | some entry => exact agrees.tidy setting entry found

theorem shows_section (agrees : tree.Agrees said) (setting : Setting) :
    Shows (((tree.get? setting.sectionName).getD emptyTable).get? setting.fieldName)
      (said setting) := by
  have shows := agrees.shows setting
  rw [at?] at shows
  cases found : tree.get? setting.sectionName with
  | none =>
      rw [found] at shows
      exact shows
  | some entry =>
      rw [found] at shows
      exact shows

theorem put (agrees : tree.Agrees said) {name : String} (isPlain : Path.IsPlain name)
    {value : Entry} {next : Setting → Option Entry}
    (tidy : ∀ setting : Setting, setting.sectionName = name → value.Tidy)
    (inside : ∀ setting : Setting, setting.sectionName = name →
      Shows (value.get? setting.fieldName) (next setting))
    (outside : ∀ setting : Setting, setting.sectionName ≠ name → next setting = said setting) :
    (tree.put name value).Agrees next where
  sorted := agrees.sorted.insert name value
  plain := by
    intro field member
    rcases Entries.mem_insert member with rfl | old
    · exact isPlain
    · exact agrees.plain field old
  tidy := by
    intro setting entry found
    rw [get?_put] at found
    split at found
    next same =>
      obtain rfl := Option.some.inj found
      exact tidy setting same
    next => exact agrees.tidy setting entry found
  shows := by
    intro setting
    rw [at?_put]
    split
    next same => exact inside setting same
    next different =>
      rw [outside setting different]
      exact agrees.shows setting

/-- What is said elsewhere makes no difference to the settings. -/
theorem setAt_elsewhere (agrees : tree.Agrees said) {name : String} (isPlain : Path.IsPlain name)
    (elsewhere : ∀ setting : Setting, setting.sectionName ≠ name) (value : Entry) (path : Path) :
    (setAt value (.name name :: path) tree).Agrees said := by
  obtain ⟨placed, same⟩ := setAt_eq_put value name path tree
  rw [same]
  refine agrees.put isPlain ?_ ?_ fun _ _ => rfl
  · intro setting inside
    exact absurd inside (elsewhere setting)
  · intro setting inside
    exact absurd inside (elsewhere setting)

/-- A table under the name of a section speaks of the settings in it. -/
theorem setAt_section (agrees : tree.Agrees said) (setting : Setting) (origin : Option String)
    {fields : List (String × Entry)} (isLower : ∀ field ∈ fields, Text.lower field.1 = field.1) :
    (setAt (table origin fields) [.name setting.sectionName] tree).Agrees fun other =>
      if other.sectionName = setting.sectionName then
        saidLast (said other) (valuesUnder other.fieldName fields)
      else said other := by
  rw [setAt, merge_eq_put, overlay]
  refine agrees.put setting.isPlain_sectionName ?_ ?_ ?_
  · intro other inside
    rw [← inside]
    exact (agrees.tidy_section other).mergeFields isLower
  · intro other inside
    rw [if_pos inside, ← inside]
    exact Shows.mergeFields isLower (agrees.shows_section other)
  · intro other outside
    rw [if_neg outside]

/-- A value under the key of a setting speaks of that setting. -/
theorem setAt_key (agrees : tree.Agrees said) (setting : Setting) (value : Entry) :
    (setAt value (Path.ofKey setting.key) tree).Agrees fun other =>
      if other = setting then saidNext (said other) value else said other := by
  let old := (tree.get? setting.sectionName).getD emptyTable
  have placed : setAt value (Path.ofKey setting.key) tree =
      tree.put setting.sectionName
        (old.put setting.fieldName (value.overlay (old.get? setting.fieldName))) := by
    rw [setting.ofKey_key, setAt, setAt, merge_eq_put]
    · simp only [old]
      cases tree.get? setting.sectionName <;> rfl
    · exact List.cons_ne_nil _ _
  rw [placed]
  refine agrees.put setting.isPlain_sectionName ?_ ?_ ?_
  · intro other inside
    exact (agrees.tidy_section setting).put setting.lower_fieldName _
  · intro other inside
    rw [get?_put]
    by_cases same : other = setting
    · subst same
      rw [if_pos rfl, if_pos rfl]
      exact (agrees.shows_section other).overlay value
    · rw [if_neg (Setting.fieldName_ne same inside), if_neg same]
      have shows := agrees.shows_section other
      rwa [inside] at shows
  · intro other outside
    have different : other ≠ setting := fun same => outside (congrArg _ same)
    rw [if_neg different]

end Agrees
end Entry

namespace Layer

/-- The values that are given to a setting under a key, which is its own or that of its section. -/
def valuesUnder (key : String) (value : Entry) (setting : Setting) : List Entry :=
  if key = setting.sectionName then Entry.valuesUnder setting.fieldName value.fields
  else if key = setting.key then [value]
  else []

/-- The values that a layer gives to a setting. -/
def values (layer : Layer) (setting : Setting) : List Entry :=
  layer.flatMap fun said => valuesUnder said.1 said.2 setting

/-- The value that a layer defines for a setting, if there is one.  A table without fields defines
nothing. -/
def value? (layer : Layer) (setting : Setting) : Option Entry :=
  Entry.saidLast none (layer.values setting)

/-- Whether a layer uses keys in lower case and speaks of the settings under their keys, or in
tables under the names of the sections. -/
structure Orderly (layer : Layer) : Prop where
  /-- The keys are in lower case. -/
  lower_eq : ∀ said ∈ layer, Text.lower said.1 = said.1
  /-- A key that leads into a section is its name or the key of a setting. -/
  key_eq : ∀ said ∈ layer, ∀ setting : Setting,
    (Path.ofKey said.1).head? = some (.name setting.sectionName) →
      said.1 = setting.sectionName ∨ ∃ other : Setting, said.1 = other.key
  /-- A section is a table, whose names are in lower case. -/
  section_eq : ∀ said ∈ layer, ∀ setting : Setting, said.1 = setting.sectionName →
    ∃ origin fields, said.2 = .table origin fields ∧
      ∀ field ∈ fields, Text.lower field.1 = field.1

namespace Orderly

variable {layer : Layer} {tree : Entry} {said : Setting → Option Entry}

theorem tail {head : String × Entry} (orderly : Orderly (head :: layer)) : Orderly layer where
  lower_eq := fun other member => orderly.lower_eq other (List.mem_cons_of_mem _ member)
  key_eq := fun other member => orderly.key_eq other (List.mem_cons_of_mem _ member)
  section_eq := fun other member => orderly.section_eq other (List.mem_cons_of_mem _ member)

/-- What is said under one key is what the tree shows then. -/
theorem agrees_setAt {key : String} {value : Entry} (orderly : Orderly ((key, value) :: layer))
    (agrees : tree.Agrees said) :
    (Entry.setAt value (Path.ofKey key) tree).Agrees fun setting =>
      Entry.saidLast (said setting) (valuesUnder key value setting) := by
  -- The key is the name of a section or the key of a setting, or it leads past all sections.
  by_cases isSection : ∃ setting : Setting, key = setting.sectionName
  · obtain ⟨setting, rfl⟩ := isSection
    obtain ⟨origin, fields, isTable, isLower⟩ :=
      orderly.section_eq _ List.mem_cons_self setting rfl
    obtain rfl : value = .table origin fields := isTable
    rw [setting.isPlain_sectionName.ofKey_eq]
    refine (agrees.setAt_section setting origin isLower).congr ?_
    intro other
    rw [valuesUnder]
    by_cases inside : other.sectionName = setting.sectionName
    · rw [if_pos inside, if_pos inside.symm]
      rfl
    · rw [if_neg inside, if_neg (Ne.symm inside), if_neg (setting.sectionName_ne_key other)]
      rfl
  · by_cases isKey : ∃ setting : Setting, key = setting.key
    · obtain ⟨setting, rfl⟩ := isKey
      refine (agrees.setAt_key setting value).congr ?_
      intro other
      rw [valuesUnder, if_neg fun same => isSection ⟨other, same⟩]
      by_cases same : other = setting
      · rw [if_pos same, if_pos (congrArg Setting.key same.symm)]
        rfl
      · rw [if_neg same, if_neg fun equal => same (Setting.key_injective equal.symm)]
        rfl
    · obtain ⟨name, rest, path, isPlain⟩ :=
        Path.exists_plain_of_ofKey (orderly.lower_eq _ List.mem_cons_self)
      have elsewhere : ∀ setting : Setting, setting.sectionName ≠ name := by
        intro setting same
        have leads : (Path.ofKey key).head? = some (.name setting.sectionName) := by
          rw [path, same, List.head?_cons]
        rcases orderly.key_eq _ List.mem_cons_self setting leads with equal | equal
        · exact isSection ⟨setting, equal⟩
        · exact isKey equal
      rw [path]
      refine (agrees.setAt_elsewhere isPlain elsewhere value rest).congr ?_
      intro other
      rw [valuesUnder, if_neg fun same => isSection ⟨other, same⟩,
        if_neg fun same => isKey ⟨other, same⟩]
      rfl

/-- A tree to which an orderly layer is applied shows what the layer says. -/
theorem agrees_applyTo (orderly : layer.Orderly) (agrees : tree.Agrees said) :
    (layer.applyTo tree).Agrees fun setting =>
      Entry.saidLast (said setting) (layer.values setting) := by
  induction layer generalizing tree said with
  | nil => exact agrees
  | cons head layer induction =>
      refine (induction orderly.tail (orderly.agrees_setAt agrees)).congr ?_
      intro setting
      rw [values, List.flatMap_cons, Entry.saidLast_append]
      rfl

theorem of_keys (keys : ∀ said ∈ layer, ∃ setting : Setting, said.1 = setting.key) :
    layer.Orderly where
  lower_eq := by
    intro said member
    obtain ⟨setting, same⟩ := keys said member
    rw [same, setting.lower_key]
  key_eq := fun said member _ _ => .inr (keys said member)
  section_eq := by
    intro said member setting isSection
    obtain ⟨other, same⟩ := keys said member
    exact absurd (isSection.symm.trans same) (setting.sectionName_ne_key other)

theorem nil : Orderly [] :=
  of_keys fun _ member => nomatch member

theorem of_sections (sections : ∀ said ∈ layer, ∃ (setting : Setting) (origin : Option String)
    (fields : List (String × Entry)), said = (setting.sectionName, .table origin fields) ∧
      ∀ field ∈ fields, Text.lower field.1 = field.1) :
    layer.Orderly where
  lower_eq := by
    intro said member
    obtain ⟨setting, origin, fields, rfl, -⟩ := sections said member
    exact setting.isPlain_sectionName.lower_eq
  key_eq := by
    intro said member setting leads
    obtain ⟨other, origin, fields, rfl, -⟩ := sections said member
    rw [other.isPlain_sectionName.ofKey_eq] at leads
    exact .inl (PathStep.name.inj (Option.some.inj leads))
  section_eq := by
    intro said member _ _
    obtain ⟨setting, origin, fields, rfl, isLower⟩ := sections said member
    exact ⟨origin, fields, rfl, isLower⟩

theorem of_field (setting : Setting) (origin : Option String) (value : Entry) :
    Orderly [(setting.sectionName, .table origin [(setting.fieldName, value)])] := by
  apply of_sections
  intro said member
  refine ⟨setting, origin, [(setting.fieldName, value)], List.mem_singleton.1 member, ?_⟩
  intro field inside
  rw [List.mem_singleton.1 inside]
  exact setting.lower_fieldName

end Orderly

/-! ## Several layers -/

theorem saidLast_flatMap (layers : List Layer) (setting : Setting) (said : Option Entry) :
    Entry.saidLast said (layers.flatMap (·.values setting)) =
      (layers.reverse.findSome? (·.value? setting)).or said := by
  induction layers generalizing said with
  | nil => rfl
  | cons layer layers induction =>
      have before : Entry.saidLast said (layer.values setting) =
          (layer.value? setting).or said := by
        rw [value?, Entry.saidLast_eq, Entry.saidLast_eq, Option.or_none]
      rw [List.flatMap_cons, Entry.saidLast_append, induction, before, List.reverse_cons,
        List.findSome?_append, Option.or_assoc]
      simp

theorem agrees_foldl {layers : List Layer} (orderly : ∀ layer ∈ layers, layer.Orderly)
    {tree : Entry} {said : Setting → Option Entry} (agrees : tree.Agrees said) :
    (layers.foldl (fun target layer => layer.applyTo target) tree).Agrees fun setting =>
      (layers.reverse.findSome? (·.value? setting)).or (said setting) := by
  suffices (layers.foldl (fun target layer => layer.applyTo target) tree).Agrees fun setting =>
      Entry.saidLast (said setting) (layers.flatMap (·.values setting)) from
    this.congr fun setting => (saidLast_flatMap layers setting (said setting)).symm
  induction layers generalizing tree said with
  | nil => exact agrees
  | cons layer layers induction =>
      obtain ⟨first, rest⟩ := List.forall_mem_cons.1 orderly
      refine (induction rest (first.agrees_applyTo agrees)).congr ?_
      intro setting
      rw [List.flatMap_cons, Entry.saidLast_append]

theorem agrees_defaults :
    (defaults.applyTo Entry.emptyTable).Agrees fun setting => some setting.builtIn := by
  have keys : ∀ said ∈ defaults, ∃ setting : Setting, said.1 = setting.key := by
    intro said member
    simp only [defaults, List.mem_cons, List.not_mem_nil, or_false] at member
    rcases member with rfl | rfl | rfl
    · exact ⟨.level, rfl⟩
    · exact ⟨.json, rfl⟩
    · exact ⟨.idPrefix, rfl⟩
  refine ((Orderly.of_keys keys).agrees_applyTo Entry.agrees_emptyTable).congr ?_
  intro setting
  cases setting <;> rfl

end Layer

namespace Entry.Agrees

variable {tree : Entry} {said : Setting → Option Entry}

/-- The fields of a tree are a layer. -/
theorem orderly_fields (agrees : tree.Agrees said) : Layer.Orderly tree.fields where
  lower_eq := fun field member => (agrees.plain field member).lower_eq
  key_eq := by
    intro field member setting leads
    rw [(agrees.plain field member).ofKey_eq] at leads
    exact .inl (PathStep.name.inj (Option.some.inj leads))
  section_eq := by
    rintro ⟨name, entry⟩ member setting rfl
    have found : tree.get? setting.sectionName = some entry :=
      agrees.sorted.mem_iff_get?.1 member
    have tidy := agrees.tidy setting entry found
    exact ⟨none, entry.fields, tidy.eq_table, tidy.lower_eq⟩

/-- As a layer, the fields of a tree give a setting what stands in the tree. -/
theorem values_fields (agrees : tree.Agrees said) (setting : Setting) :
    Layer.values tree.fields setting = (tree.at? setting).toList := by
  have bySection : Layer.values tree.fields setting =
      tree.fields.flatMap fun field =>
        if field.1 = setting.sectionName then
          valuesUnder setting.fieldName field.2.fields
        else [] := by
    apply List.flatMap_congr
    intro field member
    have path := (agrees.plain field member).ofKey_eq
    have notKey : field.1 ≠ setting.key := by
      intro same
      rw [same, setting.ofKey_key] at path
      exact absurd (congrArg List.length path) (by simp)
    rw [Layer.valuesUnder, if_neg notKey]
  rw [bySection, agrees.sorted.flatMap_eq setting.sectionName fun entry =>
    valuesUnder setting.fieldName entry.fields, at?, get?]
  cases found : Entries.get? tree.fields setting.sectionName with
  | none => rfl
  | some entry =>
      have sorted := (agrees.tidy setting entry found).sorted
      rw [Option.map_some, Option.getD_some, Option.bind_some, valuesUnder,
        sorted.flatMap_eq setting.fieldName fun value => [value], get?]
      cases Entries.get? entry.fields setting.fieldName <;> rfl

end Entry.Agrees

namespace Setting

/-- What layers define for the setting, from the most important layer on, and its value when they
define nothing. -/
def definitions (setting : Setting) (layers : List Layer) : List (Option Entry) :=
  layers.map (·.value? setting) ++ [some setting.builtIn]

/-- The first value that is defined for the setting. -/
def choice (setting : Setting) (layers : List Layer) : Entry :=
  ((setting.definitions layers).findSome? id).getD setting.builtIn

theorem choice_eq_getD (setting : Setting) (layers : List Layer) :
    setting.choice layers = (layers.findSome? (·.value? setting)).getD setting.builtIn := by
  rw [choice, definitions, List.findSome?_append, List.findSome?_map]
  have composed : id ∘ (fun layer : Layer => layer.value? setting) = (·.value? setting) := rfl
  rw [composed]
  cases layers.findSome? (·.value? setting) <;> rfl

/-- What is below the first layer that defines a setting makes no difference. -/
theorem choice_eq_of_definitions {setting : Setting} {layers others : List Layer}
    {above below otherBelow : List (Option Entry)} {value : Entry}
    (first : setting.definitions layers = above ++ some value :: below)
    (second : setting.definitions others = above ++ some value :: otherBelow) :
    setting.choice layers = setting.choice others := by
  rw [choice, choice, first, second]
  simp

end Setting

/-- The tree of all layers shows the first value that is defined for each setting. -/
theorem Layer.agrees_merge {layers : List Layer} (orderly : ∀ layer ∈ layers, layer.Orderly) :
    (merge layers).Agrees fun setting => some (setting.choice layers.reverse) := by
  -- The sources make a tree of their own.  Its fields are one more layer, above the defaults.
  have sources := agrees_foldl orderly Entry.agrees_emptyTable
  have merged := sources.orderly_fields.agrees_applyTo agrees_defaults
  refine ⟨merged.sorted, merged.plain, merged.tidy, ?_⟩
  intro setting
  have shows := merged.shows setting
  rw [sources.values_fields] at shows
  have chosen := shows.of_saidLast (sources.shows setting)
  rwa [Option.or_none, ← setting.choice_eq_getD] at chosen

end Stencil
