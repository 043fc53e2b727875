import Mathlib.Data.List.Basic

/-!
# UTF-16

A character below `0x10000` is one code unit.  Any other character is a pair of surrogates, two
units that are no characters.  So the first unit tells how many units belong to a character, and a
text can be recovered from its units character by character.
-/

namespace Stencil
namespace Text

/-- The code units of a character. -/
def utf16Units (character : Char) : List Nat :=
  if character.toNat < 0x10000 then [character.toNat]
  else
    [0xD800 + (character.toNat - 0x10000) / 0x400, 0xDC00 + (character.toNat - 0x10000) % 0x400]

/-- The code units of a text. -/
def utf16 (text : List Char) : List Nat :=
  text.flatMap utf16Units

@[simp]
theorem utf16_cons (character : Char) (text : List Char) :
    utf16 (character :: text) = utf16Units character ++ utf16 text := rfl

theorem toNat_bounds (character : Char) :
    character.toNat < 0xD800 ∨ 0xE000 ≤ character.toNat ∧ character.toNat < 0x110000 := by
  have valid : character.toNat.isValidChar := character.valid
  unfold Nat.isValidChar at valid
  omega

theorem toNat_ofNat {value : Nat} (valid : value.isValidChar) :
    (Char.ofNat value).toNat = value := by
  rw [Char.ofNat, dif_pos valid]
  rfl

/-- A character is one unit that is no surrogate, or a surrogate of either kind. -/
theorem utf16Units_cases (character : Char) :
    (utf16Units character = [character.toNat] ∧
        (character.toNat < 0xD800 ∨ 0xE000 ≤ character.toNat)) ∨
      ∃ high low, high < 0x400 ∧ low < 0x400 ∧
        character.toNat = 0x10000 + high * 0x400 + low ∧
        utf16Units character = [0xD800 + high, 0xDC00 + low] := by
  have bounds := toNat_bounds character
  by_cases small : character.toNat < 0x10000
  · left
    constructor
    · exact if_pos small
    · omega
  · right
    refine ⟨(character.toNat - 0x10000) / 0x400, (character.toNat - 0x10000) % 0x400,
      ?_, ?_, ?_, ?_⟩
    · omega
    · omega
    · omega
    · exact if_neg small

theorem utf16Units_ofNat {unit : Nat} (small : unit < 0x10000)
    (noSurrogate : unit < 0xD800 ∨ 0xE000 ≤ unit) : utf16Units (Char.ofNat unit) = [unit] := by
  have valid : unit.isValidChar := by
    unfold Nat.isValidChar
    omega
  have value := toNat_ofNat valid
  rw [utf16Units, value, if_pos small]

theorem utf16Units_ofNat_pair {high low : Nat} (highBound : high < 0x400) (lowBound : low < 0x400) :
    utf16Units (Char.ofNat (0x10000 + high * 0x400 + low)) = [0xD800 + high, 0xDC00 + low] := by
  have valid : (0x10000 + high * 0x400 + low).isValidChar := by
    unfold Nat.isValidChar
    omega
  have value := toNat_ofNat valid
  have large : ¬ 0x10000 + high * 0x400 + low < 0x10000 := by omega
  have highPart : (0x10000 + high * 0x400 + low - 0x10000) / 0x400 = high := by omega
  have lowPart : (0x10000 + high * 0x400 + low - 0x10000) % 0x400 = low := by omega
  rw [utf16Units, value, if_neg large, highPart, lowPart]

/-- The first units of a text are those of its first character only. -/
theorem utf16Units_append_inj {first second : Char} {rest others : List Nat}
    (same : utf16Units first ++ rest = utf16Units second ++ others) :
    first = second ∧ rest = others := by
  rcases utf16Units_cases first with
    ⟨unit, noSurrogate⟩ | ⟨high, low, highBound, -, value, pair⟩ <;>
    rcases utf16Units_cases second with
      ⟨otherUnit, otherNoSurrogate⟩ | ⟨otherHigh, otherLow, otherBound, -, otherValue, otherPair⟩
  · rw [unit, otherUnit] at same
    obtain ⟨values, tails⟩ := List.cons.inj same
    exact ⟨Char.toNat_inj.1 values, tails⟩
  · rw [unit, otherPair] at same
    have heads := (List.cons.inj same).1
    omega
  · rw [pair, otherUnit] at same
    have heads := (List.cons.inj same).1
    omega
  · rw [pair, otherPair] at same
    obtain ⟨highs, others⟩ := List.cons.inj same
    obtain ⟨lows, tails⟩ := List.cons.inj others
    have values : first.toNat = second.toNat := by omega
    exact ⟨Char.toNat_inj.1 values, tails⟩

theorem utf16Units_ne_nil (character : Char) : utf16Units character ≠ [] := by
  rcases utf16Units_cases character with ⟨unit, -⟩ | ⟨high, low, -, -, -, pair⟩
  · simp [unit]
  · simp [pair]

theorem eq_nil_of_utf16 {text : List Char} (empty : utf16 text = []) : text = [] := by
  cases text with
  | nil => rfl
  | cons head tail => exact absurd (List.append_eq_nil_iff.1 empty).1 (utf16Units_ne_nil head)

/-- No character starts with the second half of a pair. -/
theorem utf16Units_append_ne_low {low : Nat} (lowBound : low < 0x400) (character : Char)
    (rest others : List Nat) : utf16Units character ++ rest ≠ (0xDC00 + low) :: others := by
  intro same
  rcases utf16Units_cases character with ⟨unit, noSurrogate⟩ | ⟨high, second, highBound, -, -, pair⟩
  · rw [unit] at same
    have heads := (List.cons.inj same).1
    omega
  · rw [pair] at same
    have heads := (List.cons.inj same).1
    omega

theorem eq_cons_of_utf16 {character : Char} {text : List Char} {rest : List Nat}
    (same : utf16Units character ++ rest = utf16 text) :
    ∃ tail, text = character :: tail ∧ rest = utf16 tail := by
  cases text with
  | nil => exact absurd (List.append_eq_nil_iff.1 same).1 (utf16Units_ne_nil character)
  | cons head tail =>
      obtain ⟨rfl, rest_eq⟩ := utf16Units_append_inj same
      exact ⟨tail, rfl, rest_eq⟩

end Text
end Stencil
