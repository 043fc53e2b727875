import Mathlib
import Stencil.Proofs.Text.Ascii
import Stencil.Settings.Path

/-!
# Names in keys

A key leads to a name first.  A name that was read from a key is a key that leads to itself, and so
is a key in lower case that is no path.
-/

namespace Stencil

namespace Text

theorem toNat_toLower (character : Char) :
    character.toLower.toNat =
      if 0x41 ≤ character.toNat ∧ character.toNat ≤ 0x5A then character.toNat + 32
      else character.toNat := by
  have capital : (character.val ≥ 'A'.val ∧ character.val ≤ 'Z'.val) ↔
      (0x41 ≤ character.toNat ∧ character.toNat ≤ 0x5A) := Iff.rfl
  by_cases isCapital : 0x41 ≤ character.toNat ∧ character.toNat ≤ 0x5A
  · have small : character.toNat + 32 < 2 ^ 32 := by omega
    rw [if_pos isCapital, Char.toLower, dif_pos (capital.2 isCapital)]
    change (character.val + 32).toNat = character.val.toNat + 32
    rw [UInt32.toNat_add]
    exact Nat.mod_eq_of_lt small
  · rw [if_neg isCapital, Char.toLower, dif_neg (mt capital.1 isCapital)]

theorem toLower_toLower (character : Char) : character.toLower.toLower = character.toLower := by
  apply Char.toNat_inj.1
  rw [toNat_toLower]
  split
  next isCapital =>
    rw [toNat_toLower] at isCapital
    split at isCapital <;> omega
  next => rfl

/-- All capitals but those of ASCII come after its end. -/
theorem find?_capitalRuns {character : Char} (ascii : character.toNat < 0x80) :
    capitalRuns.find? (·.contains character) =
      if 0x41 ≤ character.toNat ∧ character.toNat ≤ 0x5A then some ⟨0x41, 0x5A, 1, 32⟩
      else none := by
  have runs : capitalRuns = ⟨0x41, 0x5A, 1, 32⟩ :: capitalRuns.tail := rfl
  have later : ∀ run ∈ capitalRuns.tail, 0x80 ≤ run.first := by decide +kernel
  have notLater : capitalRuns.tail.find? (·.contains character) = none := by
    apply List.find?_eq_none.2
    intro run member
    have after := later run member
    simp only [CapitalRun.contains, Bool.and_eq_true, decide_eq_true_eq]
    omega
  rw [runs, List.find?_cons, notLater]
  by_cases isCapital : 0x41 ≤ character.toNat ∧ character.toNat ≤ 0x5A
  · simp [CapitalRun.contains, isCapital, Nat.mod_one]
  · have outside : ({ first := 0x41, last := 0x5A, step := 1, shift := 32 } : CapitalRun).contains
        character = false := by
      simp only [CapitalRun.contains, Bool.and_eq_false_iff, decide_eq_false_iff_not]
      omega
    rw [outside, if_neg isCapital]

theorem lowerCharacter_of_ascii {character : Char} (ascii : character.toNat < 0x80) :
    lowerCharacter character = [character.toLower] := by
  have notDotted : character ≠ '\u0130' := by
    rintro rfl
    exact absurd ascii (by decide)
  rw [lowerCharacter, if_neg notDotted, find?_capitalRuns ascii]
  by_cases isCapital : 0x41 ≤ character.toNat ∧ character.toNat ≤ 0x5A
  · have lowered : character.toLower.toNat = character.toNat + 32 := by
      rw [toNat_toLower, if_pos isCapital]
    rw [if_pos isCapital]
    have shifted : ((character.toNat : Int) + 32).toNat = character.toLower.toNat := by omega
    simp only [shifted, Char.ofNat_toNat]
  · have same : character.toLower = character := by
      apply Char.toNat_inj.1
      rw [toNat_toLower, if_neg isCapital]
    rw [if_neg isCapital, same]

theorem lowerAfter_of_ascii (before : List Char) {text : List Char}
    (ascii : ∀ character ∈ text, character.toNat < 0x80) :
    lowerAfter before text = text.map Char.toLower := by
  induction text generalizing before with
  | nil => rfl
  | cons character text induction =>
      obtain ⟨first, rest⟩ := List.forall_mem_cons.1 ascii
      have notSigma : character ≠ '\u03A3' := by
        rintro rfl
        exact absurd first (by decide)
      rw [lowerAfter, if_neg notSigma, lowerCharacter_of_ascii first, induction _ rest]
      rfl

theorem lower_of_ascii {text : List Char} (ascii : ∀ character ∈ text, character.toNat < 0x80) :
    lower (String.ofList text) = String.ofList (text.map Char.toLower) := by
  rw [lower, String.toList_ofList, lowerAfter_of_ascii [] ascii]

end Text

namespace Path

theorem isUpper_iff {character : Char} :
    character.isUpper = true ↔ 0x41 ≤ character.toNat ∧ character.toNat ≤ 0x5A := by
  simp [Char.isUpper, UInt32.le_iff_toNat_le]

theorem isLower_iff {character : Char} :
    character.isLower = true ↔ 0x61 ≤ character.toNat ∧ character.toNat ≤ 0x7A := by
  simp [Char.isLower, UInt32.le_iff_toNat_le]

theorem toNat_lt_of_isNameCharacter {character : Char}
    (named : isNameCharacter character = true) : character.toNat < 0x80 := by
  simp only [isNameCharacter, Char.isAlphanum, Char.isAlpha, Bool.or_eq_true, isUpper_iff,
    isLower_iff, isDigit_iff, decide_eq_true_eq] at named
  rcases named with (((isLetter | rfl) | rfl) | rfl)
  · omega
  · decide
  · decide
  · decide

theorem isNameCharacter_toLower {character : Char} (named : isNameCharacter character = true) :
    isNameCharacter character.toLower = true := by
  by_cases isCapital : 0x41 ≤ character.toNat ∧ character.toNat ≤ 0x5A
  · have lowered : character.toLower.toNat = character.toNat + 32 := by
      rw [Text.toNat_toLower, if_pos isCapital]
    have isLower : character.toLower.isLower = true := by
      apply isLower_iff.2
      omega
    simp [isNameCharacter, Char.isAlphanum, Char.isAlpha, isLower]
  · have same : character.toLower = character := by
      apply Char.toNat_inj.1
      rw [Text.toNat_toLower, if_neg isCapital]
    rwa [same]

/-- Whether a name is a key that leads to itself and nowhere else. -/
def IsPlain (name : String) : Prop :=
  ofKey name = [.name name]

theorem IsPlain.ofKey_eq {name : String} (isPlain : IsPlain name) :
    ofKey name = [.name name] := isPlain

theorem readName_of_named {text : List Char} (nonempty : text ≠ [])
    (named : ∀ character ∈ text, isNameCharacter character = true) :
    readName text = some (.name (Text.lower (String.ofList text)), []) := by
  have taken : text.takeWhile isNameCharacter = text := List.takeWhile_eq_self_iff.2 named
  have dropped : text.dropWhile isNameCharacter = [] := List.dropWhile_eq_nil_iff.2 named
  have notEmpty : text.isEmpty = false := List.isEmpty_eq_false_iff.2 nonempty
  rw [readName, taken, dropped]
  simp [notEmpty]

theorem readSteps_nil (fuel : Nat) : readSteps fuel [] = some [] := by
  cases fuel <;> rfl

theorem lower_of_named {text : List Char}
    (named : ∀ character ∈ text, isNameCharacter character = true) :
    Text.lower (String.ofList text) = String.ofList (text.map Char.toLower) :=
  Text.lower_of_ascii fun character member => toNat_lt_of_isNameCharacter (named character member)

theorem named_map_toLower {text : List Char}
    (named : ∀ character ∈ text, isNameCharacter character = true) :
    ∀ character ∈ text.map Char.toLower, isNameCharacter character = true := by
  intro character member
  obtain ⟨other, inside, rfl⟩ := List.mem_map.1 member
  exact isNameCharacter_toLower (named other inside)

theorem lower_lower_of_named {text : List Char}
    (named : ∀ character ∈ text, isNameCharacter character = true) :
    Text.lower (Text.lower (String.ofList text)) = Text.lower (String.ofList text) := by
  have settled : (text.map Char.toLower).map Char.toLower = text.map Char.toLower := by
    rw [List.map_map]
    exact List.map_congr_left fun character _ => Text.toLower_toLower character
  rw [lower_of_named named, lower_of_named (named_map_toLower named), settled]

theorem isPlain_lower {text : List Char} (nonempty : text ≠ [])
    (named : ∀ character ∈ text, isNameCharacter character = true) :
    IsPlain (Text.lower (String.ofList text)) := by
  have lowered := lower_of_named named
  have again := lower_lower_of_named named
  have loweredNonempty : text.map Char.toLower ≠ [] := mt List.map_eq_nil_iff.1 nonempty
  rw [lowered] at again ⊢
  rw [IsPlain, ofKey, String.toList_ofList, read?,
    readName_of_named loweredNonempty (named_map_toLower named), again]
  simp [readSteps_nil]

theorem readName_eq_some {text rest : List Char} {step : PathStep}
    (read : readName text = some (step, rest)) :
    ∃ start, start ≠ [] ∧ (∀ character ∈ start, isNameCharacter character = true) ∧
      step = .name (Text.lower (String.ofList start)) := by
  simp only [readName] at read
  split at read
  next => exact nomatch read
  next notEmpty =>
    obtain ⟨rfl, -⟩ := Prod.mk.inj (Option.some.inj read)
    refine ⟨text.takeWhile isNameCharacter, ?_, fun character => List.mem_takeWhile_imp, rfl⟩
    exact fun empty => notEmpty (List.isEmpty_iff.2 empty)

/-- A key in lower case leads to a plain name first. -/
theorem exists_plain_of_ofKey {key : String} (isLower : Text.lower key = key) :
    ∃ name rest, ofKey key = .name name :: rest ∧ IsPlain name := by
  cases read : read? key.toList with
  | none =>
      have itself : ofKey key = [.name key] := by rw [ofKey, read, Option.getD_none, isLower]
      exact ⟨key, [], itself, itself⟩
  | some path =>
      have asPath : ofKey key = path := by rw [ofKey, read, Option.getD_some]
      rw [read?] at read
      obtain ⟨⟨step, left⟩, first, later⟩ := Option.bind_eq_some_iff.1 read
      obtain ⟨steps, -, whole⟩ := Option.bind_eq_some_iff.1 later
      obtain ⟨start, nonempty, named, rfl⟩ := readName_eq_some first
      refine ⟨_, steps, ?_, isPlain_lower nonempty named⟩
      rw [asPath]
      exact (Option.some.inj whole).symm

/-- A plain name is in lower case. -/
theorem IsPlain.lower_eq {name : String} (isPlain : IsPlain name) : Text.lower name = name := by
  rw [IsPlain, ofKey] at isPlain
  cases read : read? name.toList with
  | none =>
      rw [read, Option.getD_none] at isPlain
      exact PathStep.name.inj (List.head_eq_of_cons_eq isPlain)
  | some path =>
      rw [read, Option.getD_some] at isPlain
      rw [isPlain, read?] at read
      obtain ⟨⟨step, left⟩, first, later⟩ := Option.bind_eq_some_iff.1 read
      obtain ⟨steps, -, whole⟩ := Option.bind_eq_some_iff.1 later
      obtain ⟨start, nonempty, named, rfl⟩ := readName_eq_some first
      obtain rfl := PathStep.name.inj (List.head_eq_of_cons_eq (Option.some.inj whole))
      exact lower_lower_of_named named

end Path
end Stencil
