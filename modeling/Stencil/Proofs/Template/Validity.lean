import Stencil.Proofs.Template.Grammar
import Stencil.Template.Validity

/-!
# Valid texts

A template has as many opening as closing braces, one of each in every placeholder.  So counting
braces rejects no template, and the valid texts are exactly the templates.
-/

namespace Stencil
namespace Template

open Text

theorem count_eq_zero_of_braceFree {text : List Char} (plain : BraceFree text) :
    text.count '{' = 0 ∧ text.count '}' = 0 :=
  ⟨List.count_eq_zero_of_not_mem plain.1, List.count_eq_zero_of_not_mem plain.2⟩

/-- Each placeholder of a canonical template has one brace of either kind, and nothing else has. -/
theorem count_characters {template : Template}
    (segments : ∀ segment ∈ template, segment.Canonical) :
    template.characters.count '{' = template.placeholders.length ∧
      template.characters.count '}' = template.placeholders.length := by
  induction template with
  | nil => simp
  | cons segment template induction =>
      obtain ⟨piece, others⟩ := List.forall_mem_cons.1 segments
      obtain ⟨opening, closing⟩ := induction others
      cases segment with
      | literal text =>
          obtain ⟨noOpening, noClosing⟩ := count_eq_zero_of_braceFree piece.2
          simp [opening, closing, noOpening, noClosing]
      | placeholder name =>
          obtain ⟨noOpening, noClosing⟩ := count_eq_zero_of_braceFree piece.1
          simp [opening, closing, noOpening, noClosing, Nat.add_comm]

theorem openingCount_of_parse {text : String} {template : Template}
    (read : parse text = .ok template) : openingCount text = template.placeholders.length := by
  obtain ⟨canonical, rfl⟩ := parse_eq_ok_iff.1 read
  exact (count_characters canonical.segments).1

theorem closingCount_of_parse {text : String} {template : Template}
    (read : parse text = .ok template) : closingCount text = template.placeholders.length := by
  obtain ⟨canonical, rfl⟩ := parse_eq_ok_iff.1 read
  exact (count_characters canonical.segments).2

/-! ## What is found and recorded -/

theorem validate_of_unbalanced {text : String}
    (unbalanced : openingCount text ≠ closingCount text) :
    validate text = ⟨[.unbalanced (openingCount text) (closingCount text)], false⟩ := by
  rw [validate, if_pos unbalanced]
  rfl

theorem validate_of_ok {text : String} {template : Template} (read : parse text = .ok template) :
    validate text = ⟨[], true⟩ := by
  have balanced : openingCount text = closingCount text :=
    (openingCount_of_parse read).trans (closingCount_of_parse read).symm
  rw [validate, if_neg (not_not.2 balanced), read]
  rfl

theorem validate_of_error {text : String} {error : SyntaxError}
    (balanced : openingCount text = closingCount text) (read : parse text = .error error) :
    validate text = ⟨[.rejected error], false⟩ := by
  rw [validate, if_neg (not_not.2 balanced), read]
  rfl

/-- A template is valid. -/
theorem isValid_of_ok {text : String} {template : Template} (read : parse text = .ok template) :
    isValid text = true := by
  rw [isValid, validate_of_ok read]

/-- A text that is no template is not valid. -/
theorem isValid_of_error {text : String} {error : SyntaxError} (read : parse text = .error error) :
    isValid text = false := by
  by_cases balanced : openingCount text = closingCount text
  · rw [isValid, validate_of_error balanced read]
  · rw [isValid, validate_of_unbalanced balanced]

/-- The valid texts are the templates. -/
theorem isValid_iff {text : String} :
    isValid text = true ↔ ∃ template, parse text = .ok template := by
  cases read : parse text with
  | ok template => simp [isValid_of_ok read]
  | error error => simp [isValid_of_error read]

/-- The valid texts are the templates.  Each of them has as many braces of either kind as
placeholders, so that counting rejects none, and equal numbers alone make no text valid. -/
theorem counting_rejects_no_template (text : String) :
    (isValid text = true ↔ ∃ template, parse text = .ok template) ∧
      (∀ template, parse text = .ok template →
        openingCount text = template.placeholders.length ∧
          closingCount text = template.placeholders.length) ∧
      ∀ error, parse text = .error error → openingCount text = closingCount text →
        isValid text = false := by
  refine ⟨isValid_iff, fun template read => ?_, fun error read _ => isValid_of_error read⟩
  exact ⟨openingCount_of_parse read, closingCount_of_parse read⟩

example : openingCount "\x7dname\x7b" = closingCount "\x7dname\x7b" ∧
    isValid "\x7dname\x7b" = false := by
  decide

end Template
end Stencil
