import Stencil.Proofs.Template.Offences
import Stencil.Proofs.Template.Validity

/-!
# The events of rejections

A text that is not valid is rejected by one event.  The event gives the numbers of braces when they
differ, and otherwise the first offence of the text.  A placeholder that is never closed leaves one
opening brace too many, so this offence is hidden by the count.
-/

namespace Stencil

/-- Different offences are described in different words. -/
theorem Offence.message_injective : Function.Injective Offence.message := by
  intro first second same
  cases first <;> cases second <;> first | rfl | exact absurd same (by decide)

namespace Template

open Text

theorem count_of_accepted {text : List Char} (accepted : Accepted text) :
    text.count '{' = text.count '}' := by
  obtain ⟨template, canonical, rfl⟩ := accepted_iff.1 accepted
  obtain ⟨opening, closing⟩ := count_characters canonical.segments
  rw [opening, closing]

/-- An unclosed placeholder is the one place where the braces do not match. -/
theorem openingCount_of_unclosed {text : String} {position : Nat}
    (read : parse text = .error ⟨position, .unclosedPlaceholder⟩) :
    openingCount text = closingCount text + 1 := by
  cases parse_eq_error_iff.1 read with
  | unclosed accepted plain text_eq =>
      have balanced := count_of_accepted accepted
      obtain ⟨noOpening, noClosing⟩ := count_eq_zero_of_braceFree plain
      simp [openingCount, closingCount, text_eq, balanced, noOpening, noClosing]

/-- A balanced text that is no template commits an offence other than leaving a placeholder open. -/
theorem ne_unclosed_of_balanced {text : String} {error : SyntaxError}
    (balanced : openingCount text = closingCount text) (read : parse text = .error error) :
    error.offence ≠ .unclosedPlaceholder := by
  intro unclosed
  obtain ⟨position, offence⟩ := error
  obtain rfl : offence = .unclosedPlaceholder := unclosed
  have more := openingCount_of_unclosed read
  omega

/-- A valid text is accepted in silence, and any other text is rejected by one event.  The event
gives the numbers of braces exactly if they differ, and otherwise the position of the first offence
and what it is, which is never that a placeholder is not closed. -/
theorem rejections_are_explained (text : String) :
    ((validate text).value = true → (validate text).events = []) ∧
      ((validate text).value = false → ∃ event, (validate text).events = [event] ∧
        (event = .unbalanced (text.toList.count '{') (text.toList.count '}') ↔
          text.toList.count '{' ≠ text.toList.count '}') ∧
        (text.toList.count '{' = text.toList.count '}' → ∃ error, parse text = .error error ∧
          event = .rejected error ∧
          event.fields =
            [("position", .count error.position), ("reason", .text error.offence.message)] ∧
          error.offence.message ≠ "placeholder is never closed")) ∧
      (text.toList.count '{' = text.toList.count '}' →
        ∀ position, parse text ≠ .error ⟨position, .unclosedPlaceholder⟩) := by
  refine ⟨fun valid => ?_, fun rejected => ?_, fun balanced position failed => ?_⟩
  · obtain ⟨template, read⟩ := isValid_iff.1 valid
    rw [validate_of_ok read]
  · by_cases balanced : openingCount text = closingCount text
    · cases read : parse text with
      | ok template => exact absurd (isValid_of_ok read) (by simp [isValid, rejected])
      | error error =>
          refine ⟨.rejected error, by rw [validate_of_error balanced read], ?_, ?_⟩
          · exact ⟨fun same => absurd same (by simp), fun unbalanced => absurd balanced unbalanced⟩
          · intro _
            have closed := ne_unclosed_of_balanced balanced read
            exact ⟨error, rfl, rfl, rfl, fun same => closed (Offence.message_injective same)⟩
    · refine ⟨.unbalanced (openingCount text) (closingCount text), ?_, ?_, ?_⟩
      · rw [validate_of_unbalanced balanced]
      · exact ⟨fun _ => balanced, fun _ => rfl⟩
      · exact fun same => absurd same balanced
  · exact ne_unclosed_of_balanced balanced failed rfl

example : validate "→\x7ba\x7bb\x7d\x7d" = ⟨[.rejected ⟨5, .nestedOpenBrace⟩], false⟩ ∧
    validate "a\x7d\x7b\x7d" = ⟨[.unbalanced 1 2], false⟩ := by
  constructor <;> rfl

end Template
end Stencil
