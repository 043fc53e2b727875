import Mathlib.Data.List.Forall2
import Stencil.Proofs.Template.Rendering

/-!
# Outcomes of substitution

How substitution ends is decided by what is read and by which names are bound.  An offence anywhere
in the text comes before every unbound name, the first unbound name before any output, and an output
is written piece by piece, the text of a value as it is whatever it holds.
-/

namespace Stencil

/-- What stands in an output for a piece: literal text as it is, and the text of the value that is
bound to a name. -/
inductive Segment.WrittenAs (bindings : Bindings) : Segment → String → Prop
  /-- Literal text is copied. -/
  | literal (text : String) : WrittenAs bindings (.literal text) text
  /-- A name gives way to its value. -/
  | placeholder {name : String} {value : Json} (bound : bindings.get? name = some value) :
      WrittenAs bindings (.placeholder name) value.rendered

namespace Template

/-- Every piece is written exactly if all names are bound, and in one way only. -/
theorem forall₂_writtenAs_iff {bindings : Bindings} {template : Template} {texts : List String} :
    List.Forall₂ (Segment.WrittenAs bindings) template texts ↔
      template.firstUnbound bindings = none ∧ template.map (Segment.filled bindings) = texts := by
  constructor
  · intro written
    induction written with
    | nil => exact ⟨rfl, rfl⟩
    | cons piece _ induction =>
        obtain ⟨bound, texts_eq⟩ := induction
        cases piece with
        | literal text => exact ⟨bound, by rw [List.map_cons, texts_eq]; rfl⟩
        | placeholder found =>
            rw [firstUnbound_cons_placeholder, List.map_cons, texts_eq, Segment.filled, found]
            exact ⟨bound, rfl⟩
  · rintro ⟨bound, rfl⟩
    induction template with
    | nil => exact .nil
    | cons segment template induction =>
        cases segment with
        | literal text => exact .cons (.literal text) (induction bound)
        | placeholder name =>
            rw [firstUnbound_cons_placeholder] at bound
            cases found : bindings.get? name with
            | none => simp [found] at bound
            | some value =>
                rw [List.map_cons, Segment.filled, found]
                exact .cons (.placeholder found) (induction (by simpa [found] using bound))

/-- Substitution ends with the offence that reading finds.  Without an offence it ends with the
first unbound name, and if there is none either, with the text of all pieces in their order. -/
theorem substitute_follows_reading (text : String) (bindings : Bindings) :
    (∀ error, substitute text bindings = .error (.malformed error) ↔ parse text = .error error) ∧
      (∀ name, substitute text bindings = .error (.missingVariable name) ↔
        ∃ before after : Template, parse text = .ok (before ++ .placeholder name :: after) ∧
          (∀ other ∈ before.placeholders, other ∈ bindings.names) ∧ name ∉ bindings.names) ∧
      (∀ output, substitute text bindings = .ok output ↔
        ∃ template texts, parse text = .ok template ∧
          List.Forall₂ (Segment.WrittenAs bindings) template texts ∧
          String.join texts = output) ∧
      ((∃ error, substitute text bindings = .error (.malformed error)) ∨
        (∃ name, substitute text bindings = .error (.missingVariable name)) ∨
        ∃ output, substitute text bindings = .ok output) := by
  refine ⟨fun error => substitute_eq_malformed_iff, fun name => ?_, fun output => ?_, ?_⟩
  · rw [substitute_eq_missing_iff]
    constructor
    · rintro ⟨template, read, first⟩
      obtain ⟨before, after, rfl, bound, unbound⟩ := firstUnbound_eq_some_iff.1 first
      exact ⟨before, after, read, bound, unbound⟩
    · rintro ⟨before, after, read, bound, unbound⟩
      exact ⟨_, read, firstUnbound_eq_some_iff.2 ⟨before, after, rfl, bound, unbound⟩⟩
  · rw [substitute_eq_ok_iff]
    constructor
    · rintro ⟨template, read, bound, rfl⟩
      exact ⟨template, _, read, forall₂_writtenAs_iff.2 ⟨bound, rfl⟩, rfl⟩
    · rintro ⟨template, texts, read, written, rfl⟩
      obtain ⟨bound, rfl⟩ := forall₂_writtenAs_iff.1 written
      exact ⟨template, read, bound, rfl⟩
  · rcases substitute_cases text bindings with rendered | missing | malformed
    · exact .inr (.inr rendered)
    · exact .inr (.inl missing)
    · exact .inl malformed

-- A value that looks like a placeholder, or like half of one, is copied.
example : substitute "{a}{b}"
    (Dictionary.ofPairs [("a", .string "\x7bb\x7d"), ("b", .string "\x7ba")]) =
      .ok "\x7bb\x7d\x7ba" := by
  decide

end Template
end Stencil
