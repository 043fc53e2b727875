import Mathlib.Tactic.IntervalCases
import Stencil.Json.Reader
import Stencil.Proofs.Text.Utf16

/-!
# String literals

What stands between the quotes of a string literal spells code units of UTF-16.  A plain character
spells its own, a backslash and a letter those of the character that the letter stands for, and `u`
with four hexadecimal digits any unit.  The literal denotes the text that has these units, if there
is one.  The reader accepts the literals that denote a text, and finds that text.
-/

namespace Stencil
namespace Json

open Text

/-! ## The grammar -/

/-- The letters that may follow a backslash, each with the character that it stands for. -/
def letterEscapes : List (Char × Char) :=
  [('"', '"'), ('\\', '\\'), ('/', '/'), ('b', '\x08'), ('f', '\x0c'), ('n', '\n'), ('r', '\r'),
    ('t', '\t')]

/-- Whether a character is a hexadecimal digit of either case with a value. -/
def IsHexDigit (digit : Char) (value : Nat) : Prop :=
  "0123456789abcdef".toList[value]? = some digit ∨ "0123456789ABCDEF".toList[value]? = some digit

instance (digit : Char) (value : Nat) : Decidable (IsHexDigit digit value) :=
  inferInstanceAs (Decidable (_ ∨ _))

/-- Whether four characters are the hexadecimal digits of a code unit. -/
def IsCodeUnit (first second third fourth : Char) (unit : Nat) : Prop :=
  ∃ a b c d, IsHexDigit first a ∧ IsHexDigit second b ∧ IsHexDigit third c ∧ IsHexDigit fourth d ∧
    ((a * 16 + b) * 16 + c) * 16 + d = unit

/-- Whether characters may stand between the quotes of a literal and spell code units there. -/
inductive Spells : List Char → List Nat → Prop
  | nil : Spells [] []
  | plain {character : Char} {body : List Char} {units : List Nat}
      (visible : 0x20 ≤ character.toNat) (notQuote : character ≠ '"')
      (notBackslash : character ≠ '\\') (rest : Spells body units) :
      Spells (character :: body) (utf16Units character ++ units)
  | letter {letter character : Char} {body : List Char} {units : List Nat}
      (listed : (letter, character) ∈ letterEscapes) (rest : Spells body units) :
      Spells ('\\' :: letter :: body) (utf16Units character ++ units)
  | unit {first second third fourth : Char} {unit : Nat} {body : List Char} {units : List Nat}
      (isUnit : IsCodeUnit first second third fourth unit) (rest : Spells body units) :
      Spells ('\\' :: 'u' :: first :: second :: third :: fourth :: body) (unit :: units)

/-! ## Single escapes -/

theorem lt_of_isHexDigit {digit : Char} {value : Nat} (isHex : IsHexDigit digit value) :
    value < 16 := by
  have lower : "0123456789abcdef".toList.length = 16 := by decide
  have upper : "0123456789ABCDEF".toList.length = 16 := by decide
  rcases isHex with found | found
  · have inside := (List.getElem?_eq_some_iff.1 found).1
    omega
  · have inside := (List.getElem?_eq_some_iff.1 found).1
    omega

/-- A character between two others is at some distance from the first. -/
private theorem exists_distance {first last character : Char} (low : first ≤ character)
    (high : character ≤ last) :
    ∃ distance ≤ last.toNat - first.toNat, character = Char.ofNat (first.toNat + distance) := by
  have lowValue : first.toNat ≤ character.toNat := low
  have highValue : character.toNat ≤ last.toNat := high
  have value : first.toNat + (character.toNat - first.toNat) = character.toNat := by omega
  refine ⟨character.toNat - first.toNat, by omega, ?_⟩
  rw [value, Char.ofNat_toNat]

theorem hexDigit?_eq_some_iff {digit : Char} {value : Nat} :
    hexDigit? digit = some value ↔ IsHexDigit digit value := by
  have decimals : ∀ distance ≤ 9, IsHexDigit (Char.ofNat (48 + distance))
      ((Char.ofNat (48 + distance)).toNat - 48) := by decide
  have lowers : ∀ distance ≤ 5, IsHexDigit (Char.ofNat (97 + distance))
      ((Char.ofNat (97 + distance)).toNat - 97 + 10) := by decide
  have uppers : ∀ distance ≤ 5, IsHexDigit (Char.ofNat (65 + distance))
      ((Char.ofNat (65 + distance)).toNat - 65 + 10) := by decide
  constructor
  · intro read
    unfold hexDigit? at read
    split_ifs at read with decimal lower upper
    · obtain ⟨distance, bound, rfl⟩ := exists_distance decimal.1 decimal.2
      obtain rfl := Option.some.inj read
      exact decimals distance bound
    · obtain ⟨distance, bound, rfl⟩ := exists_distance lower.1 lower.2
      obtain rfl := Option.some.inj read
      exact lowers distance bound
    · obtain ⟨distance, bound, rfl⟩ := exists_distance upper.1 upper.2
      obtain rfl := Option.some.inj read
      exact uppers distance bound
  · intro isHex
    have bound := lt_of_isHexDigit isHex
    interval_cases value <;> rcases isHex with found | found <;>
      (obtain rfl := Option.some.inj found.symm; rfl)

theorem codeUnit?_eq_some_iff {first second third fourth : Char} {unit : Nat} :
    codeUnit? first second third fourth = some unit ↔
      IsCodeUnit first second third fourth unit := by
  simp only [codeUnit?, Option.bind_eq_bind, Option.bind_eq_some_iff, hexDigit?_eq_some_iff,
    Option.pure_def, Option.some.injEq]
  constructor
  · rintro ⟨a, isA, b, isB, c, isC, d, isD, value⟩
    exact ⟨a, b, c, d, isA, isB, isC, isD, value⟩
  · rintro ⟨a, b, c, d, isA, isB, isC, isD, value⟩
    exact ⟨a, isA, b, isB, c, isC, d, isD, value⟩

theorem lt_of_isCodeUnit {first second third fourth : Char} {unit : Nat}
    (isUnit : IsCodeUnit first second third fourth unit) : unit < 0x10000 := by
  obtain ⟨a, b, c, d, isA, isB, isC, isD, rfl⟩ := isUnit
  have boundA := lt_of_isHexDigit isA
  have boundB := lt_of_isHexDigit isB
  have boundC := lt_of_isHexDigit isC
  have boundD := lt_of_isHexDigit isD
  omega

theorem escaped?_eq_some_iff {letter character : Char} :
    escaped? letter = some character ↔ (letter, character) ∈ letterEscapes := by
  constructor
  · intro read
    unfold escaped? at read
    split_ifs at read with itself back form line carriage tab
    · obtain rfl := Option.some.inj read
      simp only [Bool.or_eq_true, decide_eq_true_eq] at itself
      rcases itself with (rfl | rfl) | rfl <;> decide
    all_goals
      subst letter
      obtain rfl := Option.some.inj read
      decide
  · intro listed
    simp only [letterEscapes, List.mem_cons, Prod.mk.injEq, List.not_mem_nil, or_false] at listed
    rcases listed with ⟨rfl, rfl⟩ | ⟨rfl, rfl⟩ | ⟨rfl, rfl⟩ | ⟨rfl, rfl⟩ | ⟨rfl, rfl⟩ | ⟨rfl, rfl⟩ |
      ⟨rfl, rfl⟩ | ⟨rfl, rfl⟩ <;> rfl

/-! ## Single steps of the reader -/

theorem readString_quote (text : List Char) : readString ('"' :: text) = some ([], text) := by
  rw [readString.eq_3 '"' text (by simp) (by simp)]
  rfl

theorem readString_plain {character : Char} (visible : 0x20 ≤ character.toNat)
    (notQuote : character ≠ '"') (notBackslash : character ≠ '\\') (text : List Char) :
    readString (character :: text) = (readString text).map (Prod.map (character :: ·) id) := by
  have shown : ¬ character.toNat < 32 := by omega
  rw [readString.eq_3 character text (by simp [notBackslash]) (by simp [notBackslash])]
  simp [notQuote, notBackslash, shown]
  rfl

theorem readString_letter {letter character : Char} (listed : (letter, character) ∈ letterEscapes)
    (text : List Char) :
    readString ('\\' :: letter :: text) = (readString text).map (Prod.map (character :: ·) id) := by
  have read : escaped? letter = some character := escaped?_eq_some_iff.2 listed
  have notU : letter ≠ 'u' := by
    rintro rfl
    simp [letterEscapes] at listed
  rw [readString.eq_2 letter text (by simp [notU]), read]
  rfl

variable {first second third fourth : Char} {unit : Nat}

theorem readString_unit (isUnit : IsCodeUnit first second third fourth unit)
    (noSurrogate : unit < 0xD800 ∨ 0xE000 ≤ unit) (text : List Char) :
    readString ('\\' :: 'u' :: first :: second :: third :: fourth :: text) =
      (readString text).map (Prod.map (Char.ofNat unit :: ·) id) := by
  have read := codeUnit?_eq_some_iff.2 isUnit
  have notTrailing : isTrailing unit = false := by
    simp [isTrailing]
    omega
  have notLeading : isLeading unit = false := by
    simp [isLeading]
    omega
  rw [readString.eq_1, read]
  simp [notTrailing, notLeading]
  rfl

theorem readString_pair {high low : Nat} {first₁ second₁ third₁ fourth₁ : Char}
    (isHigh : IsCodeUnit first second third fourth (0xD800 + high)) (highBound : high < 0x400)
    (isLow : IsCodeUnit first₁ second₁ third₁ fourth₁ (0xDC00 + low)) (lowBound : low < 0x400)
    (text : List Char) :
    readString ('\\' :: 'u' :: first :: second :: third :: fourth ::
        '\\' :: 'u' :: first₁ :: second₁ :: third₁ :: fourth₁ :: text) =
      (readString text).map (Prod.map (Char.ofNat (0x10000 + high * 0x400 + low) :: ·) id) := by
  have readHigh := codeUnit?_eq_some_iff.2 isHigh
  have readLow := codeUnit?_eq_some_iff.2 isLow
  have notTrailing : isTrailing (0xD800 + high) = false := by
    simp [isTrailing]
    omega
  have leading : isLeading (0xD800 + high) = true := by
    simp [isLeading]
    omega
  have trailing : isTrailing (0xDC00 + low) = true := by
    simp [isTrailing]
    omega
  rw [readString.eq_1, readHigh]
  simp [notTrailing, leading, readLow, trailing]
  rfl

/-! ## Whole literals -/

/-- Only an escape with digits spells the second half of a pair. -/
theorem Spells.of_low {body : List Char} {low : Nat} {units : List Nat}
    (spells : Spells body ((0xDC00 + low) :: units)) (lowBound : low < 0x400) :
    ∃ first second third fourth rest,
      body = '\\' :: 'u' :: first :: second :: third :: fourth :: rest ∧
      IsCodeUnit first second third fourth (0xDC00 + low) ∧ Spells rest units := by
  generalize shape : (0xDC00 + low) :: units = all at spells
  cases spells with
  | nil => cases shape
  | plain => exact absurd shape.symm (utf16Units_append_ne_low lowBound _ _ _)
  | letter => exact absurd shape.symm (utf16Units_append_ne_low lowBound _ _ _)
  | unit isUnit rest =>
      obtain ⟨rfl, rfl⟩ := List.cons.inj shape
      exact ⟨_, _, _, _, _, rfl, isUnit, rest⟩

/-- A literal that denotes a text is read as this text. -/
theorem readString_of_spells {body read : List Char} (spells : Spells body (utf16 read))
    (rest : List Char) : readString (body ++ '"' :: rest) = some (read, rest) := by
  generalize units_eq : utf16 read = units at spells
  cases spells with
  | nil =>
      obtain rfl := eq_nil_of_utf16 units_eq
      exact readString_quote rest
  | plain visible notQuote notBackslash others =>
      obtain ⟨tail, rfl, rfl⟩ := eq_cons_of_utf16 units_eq.symm
      rw [List.cons_append, readString_plain visible notQuote notBackslash,
        readString_of_spells others rest]
      rfl
  | letter listed others =>
      obtain ⟨tail, rfl, rfl⟩ := eq_cons_of_utf16 units_eq.symm
      rw [List.cons_append, List.cons_append, readString_letter listed,
        readString_of_spells others rest]
      rfl
  | @unit first second third fourth unit body units isUnit others =>
      cases read with
      | nil => cases units_eq
      | cons character tail =>
          rw [utf16_cons] at units_eq
          rcases utf16Units_cases character with
            ⟨single, noSurrogate⟩ | ⟨high, low, highBound, lowBound, value, pair⟩
          · rw [single] at units_eq
            obtain ⟨rfl, rfl⟩ := List.cons.inj units_eq
            have stepped := readString_unit isUnit noSurrogate (body ++ '"' :: rest)
            rw [readString_of_spells others rest, Char.ofNat_toNat] at stepped
            exact stepped
          · -- The other half of the character is the next escape.
            rw [pair] at units_eq
            obtain ⟨rfl, tails⟩ := List.cons.inj units_eq
            subst tails
            obtain ⟨first₁, second₁, third₁, fourth₁, body, rfl, isLow, others⟩ :=
              others.of_low lowBound
            have stepped := readString_pair isUnit highBound isLow lowBound (body ++ '"' :: rest)
            rw [readString_of_spells others rest, ← value, Char.ofNat_toNat] at stepped
            exact stepped
termination_by body.length
decreasing_by
  all_goals simp_all
  all_goals omega

theorem exists_tail {text read rest : List Char} {character : Char}
    (found : ((readString text).map fun (read, rest) => (character :: read, rest)) =
      some (read, rest)) :
    ∃ tail, read = character :: tail ∧ readString text = some (tail, rest) := by
  obtain ⟨⟨tail, others⟩, readTail, same⟩ := Option.map_eq_some_iff.1 found
  cases same
  exact ⟨tail, rfl, readTail⟩

/-- What is read stands as a literal before the rest, and denotes the text that is read. -/
theorem spells_of_readString {text read rest : List Char}
    (found : readString text = some (read, rest)) :
    ∃ body, text = body ++ '"' :: rest ∧ Spells body (utf16 read) := by
  fun_induction readString text generalizing read rest with
  | case4 first second third fourth high readHigh notTrailing leading first₁ second₁ third₁ fourth₁
      text low readLow trailing ih =>
      obtain ⟨tail, rfl, readTail⟩ := exists_tail found
      obtain ⟨body, rfl, spells⟩ := ih readTail
      simp only [isLeading, isTrailing, Bool.and_eq_true, decide_eq_true_eq] at leading trailing
      obtain ⟨highPart, rfl⟩ := Nat.exists_eq_add_of_le leading.1
      obtain ⟨lowPart, rfl⟩ := Nat.exists_eq_add_of_le trailing.1
      have isHigh := codeUnit?_eq_some_iff.1 readHigh
      have isLow := codeUnit?_eq_some_iff.1 readLow
      have highBound : highPart < 0x400 := by omega
      have lowBound : lowPart < 0x400 := by omega
      have units := utf16Units_ofNat_pair highBound lowBound
      refine ⟨'\\' :: 'u' :: first :: second :: third :: fourth ::
        '\\' :: 'u' :: first₁ :: second₁ :: third₁ :: fourth₁ :: body, rfl, ?_⟩
      rw [utf16_cons, Nat.add_sub_cancel_left, Nat.add_sub_cancel_left, units]
      exact .unit isHigh (.unit isLow spells)
  | case7 first second third fourth text unit readUnit notTrailing notLeading ih =>
      obtain ⟨tail, rfl, readTail⟩ := exists_tail found
      obtain ⟨body, rfl, spells⟩ := ih readTail
      have isUnit := codeUnit?_eq_some_iff.1 readUnit
      have bound := lt_of_isCodeUnit isUnit
      simp only [isLeading, isTrailing, Bool.and_eq_true, decide_eq_true_eq]
        at notLeading notTrailing
      have units := utf16Units_ofNat bound (by omega)
      refine ⟨'\\' :: 'u' :: first :: second :: third :: fourth :: body, rfl, ?_⟩
      rw [utf16_cons, units]
      exact .unit isUnit spells
  | case9 letter text notUnit character readLetter ih =>
      obtain ⟨tail, rfl, readTail⟩ := exists_tail found
      obtain ⟨body, rfl, spells⟩ := ih readTail
      exact ⟨_, rfl, .letter (escaped?_eq_some_iff.1 readLetter) spells⟩
  | case10 text =>
      cases found
      exact ⟨[], rfl, .nil⟩
  | case12 character text _ _ notQuote shown ih =>
      obtain ⟨tail, rfl, readTail⟩ := exists_tail found
      obtain ⟨body, rfl, spells⟩ := ih readTail
      simp only [Bool.or_eq_true, decide_eq_true_eq, not_or] at shown
      exact ⟨_, rfl, .plain (by omega) notQuote shown.1 spells⟩
  | _ => cases found

/-- The reader takes exactly the literals that denote a text. -/
theorem readString_eq_some_iff {text read rest : List Char} :
    readString text = some (read, rest) ↔
      ∃ body, text = body ++ '"' :: rest ∧ Spells body (utf16 read) := by
  constructor
  · exact spells_of_readString
  · rintro ⟨body, rfl, spells⟩
    exact readString_of_spells spells rest

end Json
end Stencil
