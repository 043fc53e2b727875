import Mathlib.Algebra.Ring.Nat
import Stencil.Text.Blank

/-!
# Digits of ASCII

The digits of ASCII are known by their code points.  A digit is no white space, and a number is
bounded by how many digits it has.
-/

namespace Stencil

variable {character : Char}

theorem isDigit_iff :
    character.isDigit = true ↔ 0x30 ≤ character.toNat ∧ character.toNat ≤ 0x39 := by
  simp [Char.isDigit, UInt32.le_iff_toNat_le]

theorem isBlank_of_isDigit (isDigit : character.isDigit = true) :
    Text.isBlank character = false := by
  obtain ⟨least, greatest⟩ := isDigit_iff.1 isDigit
  simp only [Text.isBlank, Text.inRanges, Text.blankRanges, Text.Range.contains, List.any_cons,
    List.any_nil, Bool.or_false, Bool.or_eq_false_iff, Bool.and_eq_false_iff,
    decide_eq_false_iff_not]
  omega

theorem ofDigitChars_lt {digits : List Char} (isDigit : ∀ digit ∈ digits, digit.isDigit = true) :
    Nat.ofDigitChars 10 digits 0 < 10 ^ digits.length := by
  induction digits with
  | nil => simp
  | cons digit digits induction =>
      obtain ⟨first, others⟩ := List.forall_mem_cons.1 isDigit
      have small : 10 * 0 + (digit.toNat - '0'.toNat) ≤ 9 := by
        have greatest := (isDigit_iff.1 first).2
        have zero : '0'.toNat = 48 := rfl
        omega
      have scaled := Nat.mul_le_mul_left (10 ^ digits.length) small
      have rest := induction others
      rw [Nat.ofDigitChars_cons, Nat.ofDigitChars_eq_ofDigitChars_zero, List.length_cons,
        Nat.pow_succ]
      omega

end Stencil
