import Stencil.Context.Coding
import Stencil.Proofs.Json.Records
import Stencil.Proofs.Moment.Text
import Stencil.Proofs.Session.Binding

/-!
# Contexts from JSON values

A context is read from its three parts, which must all be there and may stand in an object or in an
array.  Whatever it was read from, it is written in one way, from which it is read again.
-/

namespace Stencil

namespace Decoder

variable {α : Type}

theorem required_eq_ok_iff {name : String} {found : Option α} {value : α} :
    required name found = .ok value ↔ found = some value := by
  cases found <;> simp [required]

end Decoder

theorem Moment.exists_of_ofJson {value : Json} {moment : Moment}
    (read : ofJson value = .ok moment) : ∃ text, read? text = some moment := by
  cases value with
  | string text =>
      refine ⟨text.toList, ?_⟩
      simp only [ofJson, ofText?] at read
      split at read
      next found =>
        cases read
        exact found
      next => cases read
  | _ => simp [ofJson] at read

theorem TemplateId.exists_of_ofJson {value : Json} {id : TemplateId}
    (read : ofJson value = .ok id) : ∃ text, id = given text := by
  cases value with
  | string text => exact ⟨text, (Except.ok.inj read).symm⟩
  | _ => simp [ofJson, Decoder.string, Except.map] at read

namespace Context

/-- Whether three values can be read as the parts of a context. -/
def Parts (first second third : Json) (context : Context) : Prop :=
  Bindings.ofJson first = .ok context.bindings ∧ Moment.ofJson second = .ok context.bound ∧
    TemplateId.ofJson third = .ok context.owner

variable {value : Json} {context : Context}

theorem ofJson_object_iff {fields : List (String × Json)} :
    ofJson (.object fields) = .ok context ↔
      ∃ first second third, Entries.get? fields "variables" = some first ∧
        Entries.get? fields "timestamp" = some second ∧
        Entries.get? fields "template_id" = some third ∧ Parts first second third context := by
  simp only [ofJson, ofFields, bind_eq_ok_iff, Decoder.required_eq_ok_iff, Decoder.field?_eq]
  constructor
  · rintro ⟨_, readThird, _, readSecond, _, readFirst, _, rfl, _, rfl, _, rfl, same⟩
    cases same
    obtain ⟨first, isFirst, bindingsRead⟩ := (Decoder.optional_eq_ok_some_iff _).1 readFirst
    obtain ⟨second, isSecond, boundRead⟩ := (Decoder.optional_eq_ok_some_iff _).1 readSecond
    obtain ⟨third, isThird, ownerRead⟩ := (Decoder.optional_eq_ok_some_iff _).1 readThird
    exact ⟨first, second, third, isFirst, isSecond, isThird, bindingsRead, boundRead, ownerRead⟩
  · rintro ⟨first, second, third, isFirst, isSecond, isThird, bindingsRead, boundRead, ownerRead⟩
    exact ⟨_, (Decoder.optional_eq_ok_some_iff _).2 ⟨third, isThird, ownerRead⟩,
      _, (Decoder.optional_eq_ok_some_iff _).2 ⟨second, isSecond, boundRead⟩,
      _, (Decoder.optional_eq_ok_some_iff _).2 ⟨first, isFirst, bindingsRead⟩,
      _, rfl, _, rfl, _, rfl, rfl⟩

theorem ofJson_array_iff {items : List Json} :
    ofJson (.array items) = .ok context ↔
      ∃ first second third, items = [first, second, third] ∧ Parts first second third context := by
  rw [ofJson]
  match items with
  | [] => simp [ofItems]
  | [first] => simp [ofItems, bind_eq_ok_iff]
  | [first, second] => simp [ofItems, bind_eq_ok_iff]
  | [first, second, third] =>
    simp only [ofItems, bind_eq_ok_iff]
    constructor
    · rintro ⟨bindings, bindingsRead, bound, boundRead, owner, ownerRead, same⟩
      cases same
      exact ⟨first, second, third, rfl, bindingsRead, boundRead, ownerRead⟩
    · rintro ⟨_, _, _, same, bindingsRead, boundRead, ownerRead⟩
      cases same
      exact ⟨_, bindingsRead, _, boundRead, _, ownerRead, rfl⟩
  | first :: second :: third :: fourth :: others => simp [ofItems, bind_eq_ok_iff]

/-- Whatever a context is read from has its three parts. -/
theorem exists_parts (read : ofJson value = .ok context) :
    ∃ first second third, Parts first second third context := by
  cases value with
  | object fields =>
      obtain ⟨first, second, third, -, -, -, parts⟩ := ofJson_object_iff.1 read
      exact ⟨first, second, third, parts⟩
  | array items =>
      obtain ⟨first, second, third, -, parts⟩ := ofJson_array_iff.1 read
      exact ⟨first, second, third, parts⟩
  | _ => simp [ofJson] at read

/-- What was read is written in full. -/
theorem parts_toJson (parts : ∃ first second third, Parts first second third context) :
    Parts context.bindings.toJson context.bound.toJson context.owner.toJson context := by
  obtain ⟨first, second, third, -, boundRead, ownerRead⟩ := parts
  refine ⟨?_, ?_, ?_⟩
  · rw [Bindings.ofJson, Bindings.ofJson?_toJson]
  · obtain ⟨text, read⟩ := Moment.exists_of_ofJson boundRead
    have legible := Moment.legible_of_read? read
    simp only [Moment.toJson, Moment.ofJson, Moment.ofText?_text legible]
  · obtain ⟨text, same⟩ := TemplateId.exists_of_ofJson ownerRead
    rw [same]
    rfl

theorem toJson_fields (context : Context) :
    ∃ fields, context.toJson = .object fields ∧
      Entries.get? fields "variables" = some context.bindings.toJson ∧
      Entries.get? fields "timestamp" = some context.bound.toJson ∧
      Entries.get? fields "template_id" = some context.owner.toJson := by
  refine ⟨_, rfl, ?_, ?_, ?_⟩ <;> simp [Entries.get?_ofPairs, Entries.last?, Entries.get?_cons]

theorem ofJson_toJson (read : ofJson value = .ok context) :
    ofJson context.toJson = .ok context := by
  obtain ⟨fields, isObject, bindings, bound, owner⟩ := context.toJson_fields
  rw [isObject]
  exact ofJson_object_iff.2 ⟨_, _, _, bindings, bound, owner, parts_toJson (exists_parts read)⟩

/-- A context that was read from any value, in whatever form and with whatever offset, is read again
from the value in which it is written, to the nanosecond and in a leap second as well, and is then
written in the same way.  An object and an array with the same three parts are read alike. -/
theorem coding_is_a_stable_round_trip (read : ofJson value = .ok context) :
    ofJson context.toJson = .ok context ∧
      (∀ again, ofJson context.toJson = .ok again → again.toJson = context.toJson) ∧
      ∀ fields first second third,
        Entries.get? fields "variables" = some first →
        Entries.get? fields "timestamp" = some second →
        Entries.get? fields "template_id" = some third →
        ∀ other, ofJson (.object fields) = .ok other ↔
          ofJson (.array [first, second, third]) = .ok other := by
  have readAgain := ofJson_toJson read
  refine ⟨readAgain, fun again same => ?_, ?_⟩
  · obtain rfl := Except.ok.inj (readAgain.symm.trans same)
    rfl
  · intro fields first second third isFirst isSecond isThird other
    rw [ofJson_object_iff, ofJson_array_iff]
    constructor
    · rintro ⟨_, _, _, sameFirst, sameSecond, sameThird, parts⟩
      obtain rfl := Option.some.inj (isFirst.symm.trans sameFirst)
      obtain rfl := Option.some.inj (isSecond.symm.trans sameSecond)
      obtain rfl := Option.some.inj (isThird.symm.trans sameThird)
      exact ⟨first, second, third, rfl, parts⟩
    · rintro ⟨_, _, _, same, parts⟩
      cases same
      exact ⟨first, second, third, isFirst, isSecond, isThird, parts⟩

/-- A leap second at the end of the first hour of a year, an hour east of Greenwich, is written as
the last second of the year before. -/
theorem coding_is_a_stable_round_trip_of_leap_second :
    let value : Json := .array
      [.object [("x", .null)], .string "2017-01-01 00:59:60.5+01:00", .string "story"]
    let context : Context :=
      ⟨.ofPairs [("x", .null)], ⟨24720479, 60, 500000000⟩, .given "story"⟩
    ofJson value = .ok context ∧ context.bound.text = "2016-12-31T23:59:60.500Z" ∧
      ofJson context.toJson = .ok context := by
  intro value context
  have moment : Moment.ofText? "2017-01-01 00:59:60.5+01:00" = some context.bound := by
    decide +kernel
  have parts : Parts (.object [("x", .null)]) (.string "2017-01-01 00:59:60.5+01:00")
      (.string "story") context := by
    refine ⟨rfl, ?_, rfl⟩
    simp only [Moment.ofJson, moment]
  have read : ofJson value = .ok context := ofJson_array_iff.2 ⟨_, _, _, rfl, parts⟩
  have text : context.bound.text = "2016-12-31T23:59:60.500Z" := by
    decide +kernel
  exact ⟨read, text, (coding_is_a_stable_round_trip read).1⟩

end Context
end Stencil
