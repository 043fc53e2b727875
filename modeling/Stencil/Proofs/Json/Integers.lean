import Mathlib.Data.List.Basic
import Stencil.Json.Printer
import Stencil.Json.Reader

/-!
# Integers in JSON texts

An integer is written in decimal digits without leading zeros.  If no digit, point or exponent
follows, the reader takes exactly these digits and finds the integer again, as long as it is one of
those that are kept exactly.
-/

namespace Stencil
namespace Json

/-- Whether a text ends here or goes on with what follows a value inside an array or an object. -/
def Ends (rest : List Char) : Prop :=
  ∀ character ∈ rest.head?, character ∈ [',', ']', '\x7d']

theorem ends_nil : Ends [] := by
  simp [Ends]

theorem ends_cons {character : Char} (listed : character ∈ [',', ']', '\x7d']) (rest : List Char) :
    Ends (character :: rest) := by
  simpa [Ends] using listed

theorem Ends.cases {rest : List Char} (ends : Ends rest) :
    rest = [] ∨ ∃ character tail, rest = character :: tail ∧ character ∈ [',', ']', '\x7d'] := by
  cases rest with
  | nil => exact .inl rfl
  | cons character tail => exact .inr ⟨character, tail, rfl, ends character rfl⟩

/-! ## Digits -/

/-- The digits of a positive number do not start with zero. -/
theorem head?_toDigits_ne {size : Nat} (positive : 0 < size) :
    (Nat.toDigits 10 size).head? ≠ some '0' := by
  induction size using Nat.strongRecOn with
  | ind size induction =>
      by_cases small : size < 10
      · have digits : ∀ size < 10, 0 < size → (Nat.toDigits 10 size).head? ≠ some '0' := by decide
        exact digits size small positive
      · have smaller := induction (size / 10) (by omega) (by omega)
        rw [Nat.toDigits_of_base_le (by omega) (by omega),
          List.head?_append_of_ne_nil _ Nat.toDigits_ne_nil]
        exact smaller

/-- A number has digits, and the first of them is zero only for zero. -/
theorem exists_toDigits (size : Nat) :
    ∃ digit digits, Nat.toDigits 10 size = digit :: digits ∧ digit.isDigit = true ∧
      (digit = '0' → size = 0) := by
  cases shape : Nat.toDigits 10 size with
  | nil => exact absurd shape Nat.toDigits_ne_nil
  | cons digit digits =>
      have inside : digit ∈ Nat.toDigits 10 size := shape ▸ List.mem_cons_self
      refine ⟨digit, digits, rfl, Nat.isDigit_of_mem_toDigits (by decide) (by decide) inside, ?_⟩
      rintro rfl
      by_contra positive
      have head := head?_toDigits_ne (Nat.pos_of_ne_zero positive)
      rw [shape] at head
      exact head rfl

theorem spanDigits_toDigits (size : Nat) {rest : List Char} (ends : Ends rest) :
    spanDigits (Nat.toDigits 10 size ++ rest) = (Nat.toDigits 10 size, rest) := by
  have digits : ∀ digit ∈ Nat.toDigits 10 size, digit.isDigit = true := fun digit =>
    Nat.isDigit_of_mem_toDigits (by decide) (by decide)
  have stops : rest.takeWhile Char.isDigit = [] ∧ rest.dropWhile Char.isDigit = rest := by
    rcases ends.cases with rfl | ⟨character, tail, rfl, listed⟩
    · exact ⟨rfl, rfl⟩
    · have others : ∀ character ∈ [',', ']', '\x7d'], character.isDigit = false := by simp
      simp [others character listed]
  rw [spanDigits, List.takeWhile_append_of_pos digits, List.dropWhile_append_of_pos digits,
    stops.1, stops.2, List.append_nil]

/-- An integer starts with its sign or with a digit, and with nothing else. -/
theorem exists_integerText (value : Int) (others : List Char)
    (unlike : ∀ other ∈ others, other ≠ '-' ∧ other.isDigit = false) :
    ∃ first tail, integerText value = first :: tail ∧ first ∉ others := by
  obtain ⟨digit, digits, shape, isDigit, -⟩ := exists_toDigits value.natAbs
  rw [integerText, shape]
  by_cases negative : value < 0
  · refine ⟨'-', digit :: digits, by simp [negative, Decimal.sign], ?_⟩
    intro inside
    exact (unlike '-' inside).1 rfl
  · refine ⟨digit, digits, by simp [negative, Decimal.sign], ?_⟩
    intro inside
    exact Bool.false_ne_true ((unlike digit inside).2.symm.trans isDigit)

/-! ## The reader on digits -/

theorem readWhole_toDigits (size : Nat) {rest : List Char} (ends : Ends rest) :
    readWhole (Nat.toDigits 10 size ++ rest) = some (Nat.toDigits 10 size, rest) := by
  rw [readWhole, spanDigits_toDigits size ends]
  obtain ⟨digit, digits, shape, -, zero⟩ := exists_toDigits size
  by_cases leading : digit = '0'
  · rw [zero leading]
    rfl
  · rw [shape]
    simp [leading]

theorem readFraction_of_ends {rest : List Char} (ends : Ends rest) :
    readFraction rest = some (none, rest) := by
  rcases ends.cases with rfl | ⟨character, tail, rfl, listed⟩
  · rfl
  · simp only [List.mem_cons, List.not_mem_nil, or_false] at listed
    rcases listed with rfl | rfl | rfl <;> rfl

theorem readExponent_of_ends {rest : List Char} (ends : Ends rest) :
    readExponent rest = some (none, rest) := by
  rcases ends.cases with rfl | ⟨character, tail, rfl, listed⟩
  · rfl
  · simp only [List.mem_cons, List.not_mem_nil, or_false] at listed
    rcases listed with rfl | rfl | rfl <;> rfl

/-- The sign is read before the digits. -/
theorem readNumber_sign (negative : Bool) {text : List Char} (unsigned : text.head? ≠ some '-') :
    readNumber (Decimal.sign negative ++ text) = (do
      let (whole, text) ← readWhole text
      let (fraction, text) ← readFraction text
      let (exponent, text) ← readExponent text
      let number ← numberOf? negative whole fraction exponent
      return (number, text)) := by
  cases negative with
  | true => rfl
  | false =>
      change readNumber text = _
      unfold readNumber
      split
      next negative others signed =>
        split at signed
        next => exact absurd rfl unsigned
        next =>
          cases signed
          rfl

/-- The sign and the digits of an integer that is kept exactly make this integer. -/
theorem numberOf?_toDigits {value : Int} (exact : Number.isExact value = true) :
    numberOf? (decide (value < 0)) (Nat.toDigits 10 value.natAbs) none none =
      some (.integer value) := by
  have signed : (if decide (value < 0) = true then -(value.natAbs : Int) else value.natAbs) =
      value := by
    split_ifs with negative
    · simp only [decide_eq_true_eq] at negative
      omega
    · simp only [decide_eq_true_eq] at negative
      omega
  have notZero : (decide (value < 0) && decide ((value.natAbs : Int) = 0)) = false := by
    simp only [Bool.and_eq_false_iff, decide_eq_false_iff_not]
    omega
  simp only [numberOf?, Nat.ofDigitChars_ten_toDigits, signed, notZero, exact]
  rfl

/-- The reader takes an integer that is kept exactly and leaves what follows it. -/
theorem readNumber_integerText {value : Int} (exact : Number.isExact value = true)
    {rest : List Char} (ends : Ends rest) :
    readNumber (integerText value ++ rest) = some (.integer value, rest) := by
  obtain ⟨digit, digits, shape, isDigit, -⟩ := exists_toDigits value.natAbs
  have unsigned : (Nat.toDigits 10 value.natAbs ++ rest).head? ≠ some '-' := by
    rw [shape]
    rintro same
    obtain rfl := Option.some.inj same
    exact absurd isDigit (by decide)
  rw [integerText, List.append_assoc, readNumber_sign _ unsigned, readWhole_toDigits _ ends]
  simp [readFraction_of_ends ends, readExponent_of_ends ends, numberOf?_toDigits exact]

end Json
end Stencil
