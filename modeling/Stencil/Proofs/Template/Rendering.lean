import Stencil.Proofs.Dictionary
import Stencil.Template.Substitution

/-!
# Rendered templates

Rendering fails with the first name that is not bound.  Otherwise it gives the texts of the pieces
in their order, the values of the names in the place of the placeholders.
-/

namespace Stencil

namespace Segment

/-- The text of a piece whose name, if it has one, is bound. -/
def filled (bindings : Bindings) : Segment → String
  | literal text => text
  | placeholder name => ((bindings.get? name).map Json.rendered).getD ""

end Segment

namespace Template

/-- The first name in a template that is not bound. -/
def firstUnbound (bindings : Bindings) (template : Template) : Option String :=
  template.placeholders.find? fun name => (bindings.get? name).isNone

/-- The text of a template whose names are bound. -/
def filled (bindings : Bindings) (template : Template) : String :=
  String.join (template.map (Segment.filled bindings))

@[simp]
theorem filled_nil (bindings : Bindings) : filled bindings [] = "" := by
  simp [filled]

@[simp]
theorem filled_cons (bindings : Bindings) (segment : Segment) (template : Template) :
    filled bindings (segment :: template) =
      segment.filled bindings ++ template.filled bindings := by
  simp [filled]

@[simp]
theorem firstUnbound_nil (bindings : Bindings) : firstUnbound bindings [] = none := rfl

@[simp]
theorem firstUnbound_cons_literal (bindings : Bindings) (text : String) (template : Template) :
    firstUnbound bindings (.literal text :: template) = template.firstUnbound bindings := rfl

theorem firstUnbound_cons_placeholder (bindings : Bindings) (name : String) (template : Template) :
    firstUnbound bindings (.placeholder name :: template) =
      if (bindings.get? name).isNone then some name else template.firstUnbound bindings := by
  cases found : bindings.get? name <;> simp [firstUnbound, found]

/-- Rendering fails with the first unbound name or fills every placeholder. -/
theorem render_eq (bindings : Bindings) (template : Template) :
    template.render bindings =
      match template.firstUnbound bindings with
      | some name => .error (.missingVariable name)
      | none => .ok (template.filled bindings) := by
  induction template with
  | nil => simp [render]
  | cons segment template induction =>
      rw [render, induction]
      cases segment with
      | literal text =>
          rw [firstUnbound_cons_literal, filled_cons]
          cases firstUnbound bindings template <;> rfl
      | placeholder name =>
          rw [firstUnbound_cons_placeholder, filled_cons, Segment.render, Segment.filled]
          cases bindings.get? name with
          | none => rfl
          | some value => cases firstUnbound bindings template <;> rfl

theorem firstUnbound_eq_none_iff {bindings : Bindings} {template : Template} :
    template.firstUnbound bindings = none ↔
      ∀ name ∈ template.placeholders, name ∈ bindings.names := by
  simp only [firstUnbound, List.find?_eq_none, Option.isNone_iff_eq_none,
    Dictionary.get?_eq_none_iff, not_not]

/-- The first unbound name of two templates is that of the first one, if it has one. -/
theorem firstUnbound_append (bindings : Bindings) (before after : Template) :
    firstUnbound bindings (before ++ after) =
      (before.firstUnbound bindings).or (after.firstUnbound bindings) := by
  simp [firstUnbound, placeholders]

/-- The first unbound name stands in a placeholder, and all names before it are bound. -/
theorem exists_of_firstUnbound {bindings : Bindings} {template : Template} {name : String}
    (first : template.firstUnbound bindings = some name) :
    ∃ before after : Template, template = before ++ .placeholder name :: after ∧
      before.firstUnbound bindings = none ∧ name ∉ bindings.names := by
  induction template with
  | nil => simp at first
  | cons segment template induction =>
      cases segment with
      | literal text =>
          obtain ⟨before, after, rfl, bound, unbound⟩ := induction first
          exact ⟨.literal text :: before, after, rfl, bound, unbound⟩
      | placeholder other =>
          rw [firstUnbound_cons_placeholder] at first
          cases found : bindings.get? other with
          | none =>
              obtain rfl : other = name := by simpa [found] using first
              exact ⟨[], template, rfl, rfl, Dictionary.get?_eq_none_iff.1 found⟩
          | some value =>
              have later : firstUnbound bindings template = some name := by
                simpa [found] using first
              obtain ⟨before, after, rfl, bound, unbound⟩ := induction later
              refine ⟨.placeholder other :: before, after, rfl, ?_, unbound⟩
              rw [firstUnbound_cons_placeholder, found]
              exact bound

theorem firstUnbound_eq_some_iff {bindings : Bindings} {template : Template} {name : String} :
    template.firstUnbound bindings = some name ↔
      ∃ before after : Template, template = before ++ .placeholder name :: after ∧
        (∀ other ∈ before.placeholders, other ∈ bindings.names) ∧ name ∉ bindings.names := by
  constructor
  · intro first
    obtain ⟨before, after, shape, bound, unbound⟩ := exists_of_firstUnbound first
    exact ⟨before, after, shape, firstUnbound_eq_none_iff.1 bound, unbound⟩
  · rintro ⟨before, after, rfl, bound, unbound⟩
    rw [firstUnbound_append, firstUnbound_eq_none_iff.2 bound, firstUnbound_cons_placeholder,
      Dictionary.get?_eq_none_iff.2 unbound]
    rfl

/-! ## Substitution in a text -/

theorem substitute_of_error {text : String} {error : SyntaxError} (read : parse text = .error error)
    (bindings : Bindings) : substitute text bindings = .error (.malformed error) := by
  rw [substitute, read]

theorem substitute_of_ok {text : String} {template : Template} (read : parse text = .ok template)
    (bindings : Bindings) :
    substitute text bindings =
      match template.firstUnbound bindings with
      | some name => .error (.missingVariable name)
      | none => .ok (template.filled bindings) := by
  rw [substitute, read]
  exact render_eq bindings template

/-- An output is the filled template that was read, all of whose names are bound. -/
theorem substitute_eq_ok_iff {text output : String} {bindings : Bindings} :
    substitute text bindings = .ok output ↔ ∃ template, parse text = .ok template ∧
      template.firstUnbound bindings = none ∧ template.filled bindings = output := by
  cases read : parse text with
  | error error => simp [substitute_of_error read]
  | ok template =>
      rw [substitute_of_ok read]
      cases bound : template.firstUnbound bindings <;> simp [bound]

/-- A text is malformed exactly with the offence that is read, whatever is bound. -/
theorem substitute_eq_malformed_iff {text : String} {error : SyntaxError} {bindings : Bindings} :
    substitute text bindings = .error (.malformed error) ↔ parse text = .error error := by
  cases read : parse text with
  | error found => simp [substitute_of_error read]
  | ok template =>
      rw [substitute_of_ok read]
      cases template.firstUnbound bindings <;> simp

/-- The variable that is reported as missing is the first one that is not bound. -/
theorem substitute_eq_missing_iff {text name : String} {bindings : Bindings} :
    substitute text bindings = .error (.missingVariable name) ↔ ∃ template,
      parse text = .ok template ∧ template.firstUnbound bindings = some name := by
  cases read : parse text with
  | error found => simp [substitute_of_error read]
  | ok template =>
      rw [substitute_of_ok read]
      cases bound : template.firstUnbound bindings <;> simp [bound]

/-- Substitution ends with an output, a missing variable or an offence. -/
theorem substitute_cases (text : String) (bindings : Bindings) :
    (∃ output, substitute text bindings = .ok output) ∨
      (∃ name, substitute text bindings = .error (.missingVariable name)) ∨
      ∃ error, substitute text bindings = .error (.malformed error) := by
  cases read : parse text with
  | error error => exact .inr (.inr ⟨error, substitute_of_error read bindings⟩)
  | ok template =>
      rw [substitute_of_ok read]
      cases template.firstUnbound bindings with
      | none => exact .inl ⟨_, rfl⟩
      | some name => exact .inr (.inl ⟨name, rfl⟩)

/-- Substitution fails only with a missing variable or an offence. -/
theorem error_of_substitute {text : String} {bindings : Bindings} {error : TemplateError}
    (failed : substitute text bindings = .error error) :
    (∃ name, error = .missingVariable name) ∨ ∃ offence, error = .malformed offence := by
  rcases substitute_cases text bindings with ⟨output, same⟩ | ⟨name, same⟩ | ⟨offence, same⟩
  · cases same.symm.trans failed
  · exact .inl ⟨name, (Except.error.inj (same.symm.trans failed)).symm⟩
  · exact .inr ⟨offence, (Except.error.inj (same.symm.trans failed)).symm⟩

theorem substitute_ne_contextNotSet (text : String) (bindings : Bindings) (owner : TemplateId) :
    substitute text bindings ≠ .error (.contextNotSet owner) := by
  intro failed
  rcases error_of_substitute failed with ⟨name, same⟩ | ⟨offence, same⟩ <;> cases same

theorem substitute_ne_invalidVariables (text : String) (bindings : Bindings) :
    substitute text bindings ≠ .error .invalidVariables := by
  intro failed
  rcases error_of_substitute failed with ⟨name, same⟩ | ⟨offence, same⟩ <;> cases same

end Template
end Stencil
