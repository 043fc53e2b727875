import Mathlib.Data.List.TakeWhile
import Stencil.Proofs.Json.Strings

/-!
# Literals

A string, a truth value and null are written without brackets and digits.  A text that is one of
these literals with white space around it is read as the value of the literal, and no other text is
read as a string, a truth value or null.
-/

namespace Stencil
namespace Json

open Text

/-! ## The grammar -/

/-- Whether a text is white space. -/
def Blank (text : List Char) : Prop :=
  ∀ character ∈ text, character ∈ [' ', '\t', '\n', '\r']

/-- Whether a text is a literal of a value. -/
inductive Literal : List Char → Json → Prop
  | string {body : List Char} {text : String} (spells : Spells body (utf16 text.toList)) :
      Literal ('"' :: (body ++ ['"'])) (.string text)
  | trueName : Literal ['t', 'r', 'u', 'e'] (.boolean true)
  | falseName : Literal ['f', 'a', 'l', 's', 'e'] (.boolean false)
  | nullName : Literal ['n', 'u', 'l', 'l'] .null

/-- Whether a text is a literal of a value with white space around it. -/
def Denotes (text : List Char) (value : Json) : Prop :=
  ∃ before literal after, Blank before ∧ Literal literal value ∧ Blank after ∧
    text = before ++ literal ++ after

/-- Whether a value is written as a literal. -/
def hasLiteral : Json → Bool
  | string _ | boolean _ | null => true
  | _ => false

variable {text literal rest : List Char} {value : Json}

theorem Literal.hasLiteral (isLiteral : Literal literal value) : value.hasLiteral = true := by
  cases isLiteral <;> rfl

/-- The first character tells a literal from the texts of other values. -/
theorem Literal.exists_head (isLiteral : Literal literal value) :
    ∃ first tail, literal = first :: tail ∧ first ∈ ['"', 't', 'f', 'n'] := by
  cases isLiteral with
  | string spells => exact ⟨_, _, rfl, by decide⟩
  | trueName => exact ⟨_, _, rfl, by decide⟩
  | falseName => exact ⟨_, _, rfl, by decide⟩
  | nullName => exact ⟨_, _, rfl, by decide⟩

theorem Denotes.hasLiteral (denotes : Denotes text value) : value.hasLiteral = true := by
  obtain ⟨-, literal, -, -, isLiteral, -⟩ := denotes
  exact isLiteral.hasLiteral

/-! ## White space -/

theorem isSpace_iff {character : Char} :
    isSpace character = true ↔ character ∈ [' ', '\t', '\n', '\r'] := by
  simp [isSpace, or_assoc]

theorem skipSpace_append {before : List Char} (blank : Blank before) (text : List Char) :
    skipSpace (before ++ text) = skipSpace text := by
  apply List.dropWhile_append_of_pos
  intro character inside
  exact isSpace_iff.2 (blank character inside)

theorem skipSpace_cons {first : Char} (visible : first ∉ [' ', '\t', '\n', '\r'])
    (text : List Char) : skipSpace (first :: text) = first :: text := by
  have notSpace : ¬ isSpace first = true := mt isSpace_iff.1 visible
  rw [skipSpace, List.dropWhile_cons_of_neg notSpace]

theorem skipSpace_eq_nil_iff : skipSpace text = [] ↔ Blank text := by
  rw [skipSpace, List.dropWhile_eq_nil_iff]
  simp only [isSpace_iff, Blank]

theorem exists_blank (text : List Char) :
    ∃ before, Blank before ∧ text = before ++ skipSpace text := by
  refine ⟨text.takeWhile isSpace, ?_, List.takeWhile_append_dropWhile.symm⟩
  intro character inside
  exact isSpace_iff.1 (List.mem_takeWhile_imp inside)

theorem Literal.skipSpace (isLiteral : Literal literal value) (after : List Char) :
    skipSpace (literal ++ after) = literal ++ after := by
  obtain ⟨first, tail, rfl, isFirst⟩ := isLiteral.exists_head
  simp only [List.mem_cons, List.not_mem_nil, or_false] at isFirst
  rw [List.cons_append]
  apply skipSpace_cons
  rcases isFirst with rfl | rfl | rfl | rfl <;> decide

theorem denotes_iff :
    Denotes text value ↔
      ∃ literal after, Literal literal value ∧ Blank after ∧ skipSpace text = literal ++ after := by
  constructor
  · rintro ⟨before, literal, after, blank, isLiteral, blankAfter, rfl⟩
    refine ⟨literal, after, isLiteral, blankAfter, ?_⟩
    rw [List.append_assoc, skipSpace_append blank, isLiteral.skipSpace]
  · rintro ⟨literal, after, isLiteral, blankAfter, skipped⟩
    obtain ⟨before, blank, split⟩ := exists_blank text
    rw [skipped, ← List.append_assoc] at split
    exact ⟨before, literal, after, blank, isLiteral, blankAfter, split⟩

/-- A text that starts with a character of another kind denotes nothing. -/
theorem not_denotes_of_head {before tail : List Char} {first : Char} (blank : Blank before)
    (visible : first ∉ [' ', '\t', '\n', '\r']) (other : first ∉ ['"', 't', 'f', 'n']) :
    ¬ Denotes (before ++ first :: tail) value := by
  intro denotes
  obtain ⟨literal, after, isLiteral, -, skipped⟩ := denotes_iff.1 denotes
  obtain ⟨start, inside, rfl, isStart⟩ := isLiteral.exists_head
  rw [skipSpace_append blank, skipSpace_cons visible] at skipped
  obtain ⟨rfl, -⟩ := List.cons.inj skipped
  exact other isStart

/-! ## The reader on literals -/

/-- The reader takes a literal. -/
theorem readValue_of_literal (isLiteral : Literal literal value)
    (skipped : skipSpace text = literal ++ rest) (fuel : Nat) :
    readValue (fuel + 1) text = some (value, rest) := by
  rw [readValue, skipped]
  cases isLiteral with
  | @string body text spells =>
      have read : readString (body ++ '"' :: rest) = some (text.toList, rest) :=
        readString_eq_some_iff.2 ⟨body, rfl, spells⟩
      have shape : '"' :: (body ++ ['"']) ++ rest = '"' :: (body ++ '"' :: rest) := by simp
      rw [shape]
      simp only [read, Option.map_some, String.ofList_toList]
  | trueName => rfl
  | falseName => rfl
  | nullName => rfl

/-- A string, a truth value or null is read from a literal. -/
theorem literal_of_readValue {fuel : Nat} (written : value.hasLiteral = true)
    (found : readValue (fuel + 1) text = some (value, rest)) :
    ∃ literal, skipSpace text = literal ++ rest ∧ Literal literal value := by
  rw [readValue] at found
  -- The first branches read literals, the others values that have none.
  split at found
  next inside skipped =>
    obtain ⟨⟨read, others⟩, readInside, same⟩ := Option.map_eq_some_iff.1 found
    cases same
    obtain ⟨body, rfl, spells⟩ := readString_eq_some_iff.1 readInside
    refine ⟨'"' :: (body ++ ['"']), by simp [skipped], .string ?_⟩
    rw [String.toList_ofList]
    exact spells
  next inside skipped =>
    cases found
    exact ⟨_, skipped, .nullName⟩
  next inside skipped =>
    cases found
    exact ⟨_, skipped, .trueName⟩
  next inside skipped =>
    cases found
    exact ⟨_, skipped, .falseName⟩
  next =>
    split at found
    · cases found
      cases written
    · obtain ⟨read, -, same⟩ := Option.map_eq_some_iff.1 found
      cases same
      cases written
  next =>
    split at found
    · cases found
      cases written
    · obtain ⟨read, -, same⟩ := Option.map_eq_some_iff.1 found
      cases same
      cases written
  next =>
    obtain ⟨read, -, same⟩ := Option.map_eq_some_iff.1 found
    cases same
    cases written

/-- The reader of whole texts takes exactly the literals with white space around them. -/
theorem read?_eq_some_iff (written : value.hasLiteral = true) :
    read? text = some value ↔ Denotes text value := by
  constructor
  · intro found
    unfold read? at found
    split at found
    next other rest readText =>
      split_ifs at found with empty
      obtain rfl := Option.some.inj found
      obtain ⟨literal, skipped, isLiteral⟩ := literal_of_readValue written readText
      have blank : Blank rest := skipSpace_eq_nil_iff.1 (List.isEmpty_iff.1 empty)
      exact denotes_iff.2 ⟨literal, rest, isLiteral, blank, skipped⟩
    next => cases found
  · intro denotes
    obtain ⟨literal, after, isLiteral, blank, skipped⟩ := denotes_iff.1 denotes
    have empty : skipSpace after = [] := skipSpace_eq_nil_iff.2 blank
    rw [read?, readValue_of_literal isLiteral skipped]
    simp [empty]

end Json
end Stencil
