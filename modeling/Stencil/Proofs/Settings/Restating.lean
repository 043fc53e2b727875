import Stencil.Proofs.Settings.Decoding

/-!
# Settings that are written differently

Two values that differ in unknown fields, in defaults that one of them leaves out, or in the form of
the whole or of a section are read as the same settings, however many such differences there are.
-/

namespace Stencil
namespace Settings

/-- The sections, in order. -/
def sections : List (String × Json.Layout) :=
  [("logging", LoggingSettings.layout), ("template", TemplateSettings.layout)]

/-- The ways in which settings can be written differently: as a whole or in one section. -/
inductive Restated : Json → Json → Prop
  /-- The whole is written differently. -/
  | whole {first second : Json} (restated : Json.Restated layout first second) :
    Restated first second
  /-- A section that stands under its name is written differently. -/
  | field {fields : List (String × Json)} {name : String} {part other : Json}
    {sectionLayout : Json.Layout} (known : (name, sectionLayout) ∈ sections)
    (found : Entries.get? fields name = some part)
    (restated : Json.Restated sectionLayout part other) :
    Restated (.object fields) (.object (Entries.insert name other fields))
  /-- A section that stands at its place is written differently. -/
  | item {items : List Json} {index : Nat} {name : String} {part other : Json}
    {sectionLayout : Json.Layout} (known : sections[index]? = some (name, sectionLayout))
    (found : items[index]? = some part) (restated : Json.Restated sectionLayout part other) :
    Restated (.array items) (.array (items.set index other))

variable {first second : Json} {settings : Settings}

theorem ofJson_of_restated (restated : Json.Restated layout first second) :
    ofJson first = .ok settings ↔ ofJson second = .ok settings := by
  rw [ofJson_eq_ok_iff, ofJson_eq_ok_iff, restated.isRecord_iff,
    Decoder.orDefault_restated _ restated (by decide) (by simp [layout]),
    Decoder.orDefault_restated _ restated (by decide) (by simp [layout])]

/-- A section may be replaced by another that is read alike. -/
theorem ofJson_of_replaced (isRecord : first.IsRecord layout.names ↔ second.IsRecord layout.names)
    {name : String} {sectionLayout : Json.Layout} (known : (name, sectionLayout) ∈ sections)
    {part other : Json} (restated : Json.Restated sectionLayout part other)
    (before : first.part? layout.names name = some part)
    (after : second.part? layout.names name = some other)
    (elsewhere : ∀ others ∈ layout.names, others ≠ name →
      second.part? layout.names others = first.part? layout.names others) :
    ofJson first = .ok settings ↔ ofJson second = .ok settings := by
  rw [ofJson_eq_ok_iff, ofJson_eq_ok_iff, isRecord]
  simp only [sections, List.mem_cons, Prod.mk.injEq, List.not_mem_nil, or_false] at known
  rcases known with ⟨rfl, rfl⟩ | ⟨rfl, rfl⟩
  · rw [before, after, elsewhere "template" (by decide) (by decide), Decoder.orDefault,
      Decoder.orDefault, LoggingSettings.ofJson_restated restated]
  · rw [before, after, elsewhere "logging" (by decide) (by decide), Decoder.orDefault,
      Decoder.orDefault, TemplateSettings.ofJson_restated restated]

/-- Whatever is written differently is read as the same settings. -/
theorem Restated.ofJson_iff (restated : Restated first second) :
    ofJson first = .ok settings ↔ ofJson second = .ok settings := by
  cases restated with
  | whole restated => exact ofJson_of_restated restated
  | @field fields name part other sectionLayout known found restated =>
      refine ofJson_of_replaced Iff.rfl known restated found ?_ fun others _ different => ?_
      · rw [Json.part?_object, Entries.get?_insert, if_pos rfl]
      · rw [Json.part?_object, Json.part?_object, Entries.get?_insert, if_neg different]
  | @item items index name part other sectionLayout known found restated =>
      have named : layout.names[index]? = some name := by
        have names : layout.names = sections.map Prod.fst := rfl
        rw [names, List.getElem?_map, known, Option.map_some]
      obtain ⟨bounded, here⟩ := List.getElem?_eq_some_iff.1 named
      have distinct : layout.names.Nodup := by decide
      have place : layout.names.idxOf name = index := by
        rw [← here]
        exact distinct.idxOf_getElem index bounded
      obtain ⟨inside, -⟩ := List.getElem?_eq_some_iff.1 found
      refine ofJson_of_replaced ?_ (List.mem_of_getElem? known) restated ?_ ?_ ?_
      · simp [Json.IsRecord]
      · rw [Json.part?_array, place, found]
      · rw [Json.part?_array, place, List.getElem?_set_self inside]
      · intro others listed different
        have apart : index ≠ layout.names.idxOf others := by
          intro same
          have named' := List.getElem?_idxOf listed
          rw [← same, named] at named'
          exact different (Option.some.inj named').symm
        rw [Json.part?_array, Json.part?_array, List.getElem?_set_ne apart]

/-- However often settings are written differently, they stay the same. -/
theorem ofJson_iff_of_eqvGen (restated : Relation.EqvGen Restated first second) :
    ofJson first = .ok settings ↔ ofJson second = .ok settings := by
  induction restated with
  | rel first second restated => exact restated.ofJson_iff
  | refl value => exact Iff.rfl
  | symm first second _ induction => exact induction.symm
  | trans first second third _ _ before after => exact before.trans after

/-- A value can be read as settings if it is an object, or an array of at most two values, whose
sections are objects or short enough arrays and whose settings have their types.  What it is read as
is read again from the settings written in full, and from every value that is made from it by
changing unknown fields, leaving out or filling in defaults, and turning objects into arrays or
back. -/
theorem decoding_fills_in_defaults (value : Json) :
    ((∃ settings, ofJson value = .ok settings) ↔ IsReadable value) ∧
      ∀ settings, ofJson value = .ok settings →
        ofJson (.object
            [("logging", .object [("json", .boolean settings.logging.json),
              ("level", .string settings.logging.level)]),
            ("template", .object [("id_prefix", .string settings.template.idPrefix)])]) =
          .ok settings ∧
        ∀ other, Relation.EqvGen Restated value other → ofJson other = .ok settings := by
  refine ⟨exists_ofJson_iff, fun settings read => ⟨?_, fun other restated => ?_⟩⟩
  · rw [← toJson_eq, ofJson_toJson]
  · exact (ofJson_iff_of_eqvGen restated).1 read

/-- An array whose second section has an unknown field and a default is read like an object with one
setting. -/
theorem decoding_fills_in_defaults_of_arrays :
    let array : Json := .array
      [.array [.string "debug"], .object [("id_prefix", .string "template"), ("x", .null)]]
    let object : Json := .object [("logging", .object [("level", .string "debug")])]
    ofJson array = .ok ⟨⟨"debug", false⟩, ⟨"template"⟩⟩ ∧
      Relation.EqvGen Restated array object ∧
      ofJson object = .ok ⟨⟨"debug", false⟩, ⟨"template"⟩⟩ := by
  intro array object
  have read : ofJson array = .ok ⟨⟨"debug", false⟩, ⟨"template"⟩⟩ := rfl
  let level : List Json := [.string "debug"]
  -- The second section is a default, the whole becomes an object, and last the first section.
  have shortened : Restated array (.array [.array level]) :=
    .whole (@Json.Restated.shortened layout [.array level] "template" _ rfl (.inr ⟨rfl, rfl⟩))
  have listed : Restated (.object [("logging", .array level)]) (.array [.array level]) := by
    refine .whole (.listed (by decide) ?_)
    simp [layout, Entries.get?]
  have changed : Entries.insert "logging" (Json.array level)
      [("logging", .object [("level", .string "debug")])] = [("logging", .array level)] := by
    simp [Entries.insert]
  have inner : Restated object (.object [("logging", .array level)]) := by
    rw [← changed]
    refine .field List.mem_cons_self rfl (.listed (by decide) ?_)
    simp [LoggingSettings.layout, level, Entries.get?]
  have restated : Relation.EqvGen Restated array object :=
    .trans _ _ _ (.rel _ _ shortened)
      (.trans _ _ _ (.symm _ _ (.rel _ _ listed)) (.symm _ _ (.rel _ _ inner)))
  exact ⟨read, restated, ((decoding_fills_in_defaults array).2 _ read).2 object restated⟩

end Settings
end Stencil
