import Stencil.Proofs.Template.Names
import Stencil.Proofs.Template.Rendering
import Stencil.Proofs.Template.Validity

/-!
# Checks before substitution

Validity and the names of a text tell how substitution ends, whatever values the names have: a text
that is not valid is malformed, and a valid one is rendered exactly if all its names are bound.
-/

namespace Stencil
namespace Template

/-- A text is not valid exactly if substitution finds it malformed, whatever is bound. -/
theorem isValid_eq_false_iff {text : String} {bindings : Bindings} :
    isValid text = false ↔ ∃ error, substitute text bindings = .error (.malformed error) := by
  simp only [substitute_eq_malformed_iff]
  cases read : parse text with
  | ok template => simp [isValid_of_ok read]
  | error error => simp [isValid_of_error read]

/-- A text is rendered exactly if it is valid and all its names are bound. -/
theorem substitute_ok_iff {text : String} {bindings : Bindings} :
    (∃ output, substitute text bindings = .ok output) ↔
      isValid text = true ∧ ∀ name ∈ names text, name ∈ bindings.names := by
  cases read : parse text with
  | error error =>
      simp [isValid_of_error read, substitute_of_error read]
  | ok template =>
      have bound : (∀ name ∈ names text, name ∈ bindings.names) ↔
          template.firstUnbound bindings = none := by
        simp only [mem_names_of_parse read, firstUnbound_eq_none_iff]
      rw [substitute_of_ok read, bound]
      cases template.firstUnbound bindings <;> simp [isValid_of_ok read]

/-- A variable that is reported as missing is an unbound name of a valid text. -/
theorem of_missingVariable {text name : String} {bindings : Bindings}
    (missing : substitute text bindings = .error (.missingVariable name)) :
    isValid text = true ∧ name ∈ names text ∧ name ∉ bindings.names := by
  obtain ⟨template, read, first⟩ := substitute_eq_missing_iff.1 missing
  obtain ⟨before, after, rfl, -, notBound⟩ := firstUnbound_eq_some_iff.1 first
  have inside : name ∈ placeholders (before ++ .placeholder name :: after) :=
    mem_placeholders_iff.2 (List.mem_append_right _ List.mem_cons_self)
  exact ⟨isValid_of_ok read, (mem_names_of_parse read).2 inside, notBound⟩

/-- Validity and the names of a text are an exact check before substitution. -/
theorem substitute_precheck (text : String) (bindings : Bindings) :
    (isValid text = false ↔ ∃ error, substitute text bindings = .error (.malformed error)) ∧
      ((∃ output, substitute text bindings = .ok output) ↔
        isValid text = true ∧ ∀ name ∈ names text, name ∈ bindings.names) ∧
      ((∃ name ∈ names text, name ∉ bindings.names ∧
          substitute text bindings = .error (.missingVariable name)) ↔
        isValid text = true ∧ ∃ name ∈ names text, name ∉ bindings.names) ∧
      (bindings.names = names text →
        ∀ name, substitute text bindings ≠ .error (.missingVariable name)) := by
  refine ⟨isValid_eq_false_iff, substitute_ok_iff, ⟨?_, ?_⟩, ?_⟩
  · rintro ⟨name, mentioned, notBound, missing⟩
    exact ⟨(of_missingVariable missing).1, name, mentioned, notBound⟩
  · rintro ⟨valid, name, mentioned, notBound⟩
    rcases substitute_cases text bindings with rendered | ⟨other, missing⟩ | malformed
    · exact absurd ((substitute_ok_iff.1 rendered).2 name mentioned) notBound
    · obtain ⟨-, otherMentioned, otherNotBound⟩ := of_missingVariable missing
      exact ⟨other, otherMentioned, otherNotBound, missing⟩
    · simp [isValid_eq_false_iff.2 malformed] at valid
  · intro exactly name missing
    obtain ⟨-, mentioned, notBound⟩ := of_missingVariable missing
    exact notBound (exactly ▸ mentioned)

/-- The names of a text that is no template can be bound, and none of them is missing then. -/
theorem substitute_precheck_malformed :
    (Dictionary.ofPairs [("a \x7bx", Json.null)]).names = names "\x7ba \x7bx\x7d" ∧
      isValid "\x7ba \x7bx\x7d" = false ∧
      ∀ name, substitute "\x7ba \x7bx\x7d" (Dictionary.ofPairs [("a \x7bx", Json.null)]) ≠
        .error (.missingVariable name) := by
  have exactly : (Dictionary.ofPairs [("a \x7bx", Json.null)]).names = names "\x7ba \x7bx\x7d" := by
    decide
  exact ⟨exactly, by decide, (substitute_precheck _ _).2.2.2 exactly⟩

end Template
end Stencil
