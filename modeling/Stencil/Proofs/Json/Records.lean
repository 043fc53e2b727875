import Mathlib.Logic.Relation
import Stencil.Json.Decode
import Stencil.Proofs.Dictionary

/-!
# Records in JSON

A record is an object, in which its parts stand under their names, or an array, in which they stand
in order.  What a record is read as depends on its parts only, so it may be restated: between the
two forms, with other unknown fields, and without what would be filled in anyway.
-/

namespace Stencil
namespace Json

variable {names : List String} {first second : Json} {name : String}

/-- Whether a value has the form of a record: an object, or an array without too many values. -/
def IsRecord (names : List String) : Json → Prop
  | object _ => True
  | array items => items.length ≤ names.length
  | _ => False

/-- The part of a record with a name, which stands under this name or at its place. -/
def part? (names : List String) (name : String) : Json → Option Json
  | object fields => Entries.get? fields name
  | array items => items[names.idxOf name]?
  | _ => none

@[simp]
theorem part?_object (names : List String) (name : String) (fields : List (String × Json)) :
    (object fields).part? names name = Entries.get? fields name := rfl

@[simp]
theorem part?_array (names : List String) (name : String) (items : List Json) :
    (array items).part? names name = items[names.idxOf name]? := rfl

/-- A kind of record whose parts may be left out. -/
structure Layout where
  /-- The names of the parts, in order. -/
  names : List String
  /-- Whether a value of the part with a name says no more than a missing part. -/
  IsDefault : String → Json → Prop

/-- The ways in which a record can be written differently. -/
inductive Restated (layout : Layout) : Json → Json → Prop
  /-- Other fields than the parts are added, removed or changed. -/
  | unknown {fields others : List (String × Json)}
    (same : ∀ name ∈ layout.names, Entries.get? others name = Entries.get? fields name) :
    Restated layout (object fields) (object others)
  /-- A field with its default is left out. -/
  | omitted {fields : List (String × Json)} {name : String} {value : Json}
    (found : Entries.get? fields name = some value) (isDefault : layout.IsDefault name value) :
    Restated layout (object fields) (object (fields.filter fun field => field.1 ≠ name))
  /-- The parts are listed in order. -/
  | listed {fields : List (String × Json)} {items : List Json}
    (fits : items.length ≤ layout.names.length)
    (same : ∀ name ∈ layout.names, Entries.get? fields name = items[layout.names.idxOf name]?) :
    Restated layout (object fields) (array items)
  /-- A default at the end of the list is left out. -/
  | shortened {items : List Json} {name : String} {value : Json}
    (isLast : layout.names[items.length]? = some name) (isDefault : layout.IsDefault name value) :
    Restated layout (array (items ++ [value])) (array items)

variable {layout : Layout}

/-- A record that is restated is still a record. -/
theorem Restated.isRecord_iff (restated : Restated layout first second) :
    first.IsRecord layout.names ↔ second.IsRecord layout.names := by
  cases restated with
  | unknown same => exact Iff.rfl
  | omitted found isDefault => exact Iff.rfl
  | listed fits same => exact iff_of_true trivial fits
  | shortened isLast isDefault =>
      obtain ⟨inside, -⟩ := List.getElem?_eq_some_iff.1 isLast
      simp only [IsRecord, List.length_append, List.length_singleton]
      omega

/-- The parts stay as they are, but for defaults that are left out. -/
theorem Restated.part? (restated : Restated layout first second) (listed : name ∈ layout.names) :
    second.part? layout.names name = first.part? layout.names name ∨
      ∃ value, layout.IsDefault name value ∧ first.part? layout.names name = some value ∧
        second.part? layout.names name = none := by
  cases restated with
  | unknown same => exact .inl (same name listed)
  | @omitted fields other value found isDefault =>
      by_cases here : name = other
      · subst here
        refine .inr ⟨value, isDefault, found, ?_⟩
        simp [Entries.get?_eq_none_iff]
      · exact .inl (Entries.get?_filter_ne fields here)
  | listed fits same => exact .inl (same name listed).symm
  | @shortened items other value isLast isDefault =>
      have place : layout.names[layout.names.idxOf name]? = some name :=
        List.getElem?_idxOf listed
      rcases Nat.lt_trichotomy (layout.names.idxOf name) items.length with before | last | after
      · exact .inl (List.getElem?_append_left before).symm
      · obtain rfl : other = name := Option.some.inj (isLast.symm.trans (last ▸ place))
        refine .inr ⟨value, isDefault, ?_, ?_⟩
        · rw [part?_array, last, List.getElem?_concat_length]
        · rw [part?_array, last, List.getElem?_eq_none (Nat.le_refl _)]
      · left
        rw [part?_array, part?_array, List.getElem?_eq_none (Nat.le_of_lt after),
          List.getElem?_eq_none (List.length_append ▸ after)]

end Json

theorem bind_eq_ok_iff {ε α β : Type} {first : Except ε α} {next : α → Except ε β} {value : β} :
    (first >>= next) = .ok value ↔ ∃ middle, first = .ok middle ∧ next middle = .ok value := by
  cases first with
  | error error => simp [bind, Except.bind]
  | ok middle => simp [bind, Except.bind]

namespace Decoder

variable {α : Type} (decoder : Decoder α)

/-- What a part is read as that may be missing. -/
def optional : Option Json → Except DecodeError (Option α)
  | none => .ok none
  | some part => (decoder part).map some

theorem field?_eq (fields : List (String × Json)) (name : String) :
    decoder.field? fields name = decoder.optional (Entries.get? fields name) := by
  rw [field?]
  cases Entries.get? fields name <;> rfl

theorem item?_eq (items : List Json) (index : Nat) :
    decoder.item? items index = decoder.optional items[index]? := by
  rw [item?]
  cases items[index]? <;> rfl

theorem optional_eq_ok_some_iff {part : Option Json} {value : α} :
    decoder.optional part = .ok (some value) ↔
      ∃ found, part = some found ∧ decoder found = .ok value := by
  cases part with
  | none => simp [optional]
  | some found => cases read : decoder found <;> simp [optional, read, Except.map]

/-- What a part is read as that may be missing and then has a default. -/
def orDefault (default : α) : Option Json → Except DecodeError α
  | none => .ok default
  | some part => decoder part

/-- The value of a part, or its default, is found if the part can be read. -/
theorem orDefault_eq_ok_iff {part : Option Json} {default value : α} :
    decoder.orDefault default part = .ok value ↔
      ∃ found, decoder.optional part = .ok found ∧ found.getD default = value := by
  cases part with
  | none => simp [orDefault, optional]
  | some part => cases read : decoder part <;> simp [orDefault, optional, read, Except.map]

/-- A default that is left out is filled in again. -/
theorem orDefault_restated {layout : Json.Layout} {first second : Json}
    (restated : Json.Restated layout first second) {name : String} (listed : name ∈ layout.names)
    {default : α} (decodes : ∀ value, layout.IsDefault name value → decoder value = .ok default) :
    decoder.orDefault default (second.part? layout.names name) =
      decoder.orDefault default (first.part? layout.names name) := by
  rcases restated.part? listed with same | ⟨value, isDefault, found, missing⟩
  · rw [same]
  · rw [found, missing, orDefault, orDefault, decodes value isDefault]

end Decoder
end Stencil
