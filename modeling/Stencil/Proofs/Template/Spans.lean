import Mathlib.Data.List.Basic
import Stencil.Template.Names

/-!
# Spans as the results of a search

The spans of a text are what a repeated search finds that looks for an opening brace, one or more
characters other than the closing brace, and a closing brace.  Each search takes the leftmost match
with the longest middle, and the next one starts behind it.
-/

namespace Stencil
namespace Template

variable {text before name after : List Char}

/-! ## Stretches of text -/

theorem spansFrom_none_append (noOpening : '{' ∉ text) (rest : List Char) :
    spansFrom none (text ++ rest) = spansFrom none rest := by
  induction text with
  | nil => rfl
  | cons character text induction =>
      obtain ⟨different, noOpening⟩ := not_or.1 (mt List.mem_cons.2 noOpening)
      simp [spansFrom, Ne.symm different, induction noOpening]

theorem spansFrom_some_append (held : List Char) (noClosing : '}' ∉ text) (rest : List Char) :
    spansFrom (some held) (text ++ rest) = spansFrom (some (text.reverse ++ held)) rest := by
  induction text generalizing held with
  | nil => rfl
  | cons character text induction =>
      obtain ⟨different, noClosing⟩ := not_or.1 (mt List.mem_cons.2 noClosing)
      simp [spansFrom, Ne.symm different, induction _ noClosing]

/-- A closed span gives its text. -/
theorem spansFrom_closed (nonempty : name ≠ []) (noClosing : '}' ∉ name) (rest : List Char) :
    spansFrom none ('{' :: (name ++ '}' :: rest)) = String.ofList name :: spansFrom none rest := by
  have skipped := spansFrom_some_append [] noClosing ('}' :: rest)
  simpa [spansFrom, nonempty] using skipped

/-! ## Matches -/

/-- A place in a text where a brace is opened and, behind a name, closed. -/
structure IsMatch (text before name after : List Char) : Prop where
  /-- The name stands between two braces. -/
  text_eq : text = before ++ '{' :: (name ++ '}' :: after)
  /-- There is a name. -/
  nonempty : name ≠ []
  /-- The name ends at the first closing brace. -/
  noClosing : '}' ∉ name

/-- The names that a repeated search for the leftmost and longest match finds. -/
inductive Found : List Char → List String → Prop
  | missed {text : List Char} (noMatch : ∀ before name after, ¬ IsMatch text before name after) :
      Found text []
  | next {text before name after : List Char} {names : List String}
      (here : IsMatch text before name after)
      (leftmost : ∀ front other rest, IsMatch text front other rest → before.length ≤ front.length)
      (longest : ∀ other rest, IsMatch text before other rest → other.length ≤ name.length)
      (others : Found after names) : Found text (String.ofList name :: names)

private theorem cut_unique {character : Char} {first second rest tail : List Char}
    (notInFirst : character ∉ first) (notInSecond : character ∉ second)
    (same : first ++ character :: rest = second ++ character :: tail) :
    first = second ∧ rest = tail := by
  induction first generalizing second with
  | nil =>
      cases second with
      | nil => simpa using same
      | cons head second =>
          obtain ⟨rfl, -⟩ := List.cons.inj same
          exact absurd List.mem_cons_self notInSecond
  | cons head first induction =>
      cases second with
      | nil =>
          obtain ⟨rfl, -⟩ := List.cons.inj same
          exact absurd List.mem_cons_self notInFirst
      | cons other second =>
          obtain ⟨rfl, tails⟩ := List.cons.inj same
          obtain ⟨rfl, rfl⟩ := induction (mt (List.mem_cons_of_mem _) notInFirst)
            (mt (List.mem_cons_of_mem _) notInSecond) tails
          exact ⟨rfl, rfl⟩

/-- Two matches with equally long texts before them are the same match. -/
theorem IsMatch.unique {front other rest : List Char} (first : IsMatch text before name after)
    (second : IsMatch text front other rest) (lengths : before.length = front.length) :
    before = front ∧ name = other ∧ after = rest := by
  have same := first.text_eq.symm.trans second.text_eq
  obtain ⟨rfl, tails⟩ := List.append_inj same lengths
  obtain ⟨rfl, rfl⟩ := cut_unique first.noClosing second.noClosing (List.cons.inj tails).2
  exact ⟨rfl, rfl, rfl⟩

/-- A search has one result only. -/
theorem Found.unique {names others : List String} (first : Found text names)
    (second : Found text others) : names = others := by
  induction first generalizing others with
  | missed noMatch =>
      cases second with
      | missed => rfl
      | next here => exact absurd here (noMatch _ _ _)
  | next here leftmost _ _ induction =>
      cases second with
      | missed noMatch => exact absurd here (noMatch _ _ _)
      | next there leftmostThere _ rest =>
          have lengths := Nat.le_antisymm (leftmost _ _ _ there) (leftmostThere _ _ _ here)
          obtain ⟨-, rfl, rfl⟩ := here.unique there lengths
          rw [induction rest]

/-! ## The spans of a text -/

private theorem IsMatch.of_cons {character : Char}
    (noneHere : ∀ name after, ¬ IsMatch (character :: text) [] name after)
    (isMatch : IsMatch (character :: text) before name after) :
    ∃ front, before = character :: front ∧ IsMatch text front name after := by
  cases before with
  | nil => exact absurd isMatch (noneHere name after)
  | cons head front =>
      obtain ⟨rfl, text_eq⟩ := List.cons.inj isMatch.text_eq
      exact ⟨front, rfl, text_eq, isMatch.nonempty, isMatch.noClosing⟩

private theorem IsMatch.cons (character : Char) (isMatch : IsMatch text before name after) :
    IsMatch (character :: text) (character :: before) name after :=
  ⟨congrArg (character :: ·) isMatch.text_eq, isMatch.nonempty, isMatch.noClosing⟩

/-- A character at which no match begins does not change what is found. -/
theorem Found.cons {character : Char} {names : List String}
    (noneHere : ∀ name after, ¬ IsMatch (character :: text) [] name after)
    (found : Found text names) : Found (character :: text) names := by
  cases found with
  | missed noMatch =>
      refine .missed fun before name after isMatch => ?_
      obtain ⟨front, -, inside⟩ := isMatch.of_cons noneHere
      exact noMatch front name after inside
  | next here leftmost longest others =>
      refine .next (here.cons character) ?_ ?_ others
      · intro before other rest isMatch
        obtain ⟨front, rfl, inside⟩ := isMatch.of_cons noneHere
        exact Nat.succ_le_succ (leftmost front other rest inside)
      · intro other rest isMatch
        obtain ⟨front, front_eq, inside⟩ := isMatch.of_cons noneHere
        obtain ⟨-, rfl⟩ := List.cons.inj front_eq
        exact longest other rest inside

private theorem Found.emptySpan {names : List String} (found : Found text names) :
    Found ('{' :: '}' :: text) names := by
  refine (found.cons fun name after isMatch => ?_).cons fun name after isMatch => ?_
  · simpa using isMatch.text_eq
  · obtain ⟨-, tails⟩ := List.cons.inj isMatch.text_eq
    cases name with
    | nil => exact isMatch.nonempty rfl
    | cons head name =>
        obtain ⟨rfl, -⟩ := List.cons.inj tails
        exact isMatch.noClosing List.mem_cons_self

private theorem Found.closedSpan {names : List String} (nonempty : name ≠ [])
    (noClosing : '}' ∉ name) (found : Found text names) :
    Found ('{' :: (name ++ '}' :: text)) (String.ofList name :: names) := by
  have here : IsMatch ('{' :: (name ++ '}' :: text)) [] name text := ⟨rfl, nonempty, noClosing⟩
  refine .next here (fun _ _ _ _ => Nat.zero_le _) (fun other rest isMatch => ?_) found
  obtain ⟨-, rfl, -⟩ := here.unique isMatch rfl
  exact Nat.le_refl _

private theorem found_of_noClosing (noClosing : '}' ∉ text) : Found text [] := by
  refine .missed fun before name after isMatch => noClosing ?_
  simp [isMatch.text_eq]

/-- The text of a span that is open. -/
private def openText : Option (List Char) → List Char
  | none => []
  | some held => '{' :: held.reverse

private theorem found_openText (held : Option (List Char)) (text : List Char)
    (noClosing : ∀ name ∈ held, '}' ∉ name) :
    Found (openText held ++ text) (spansFrom held text) := by
  fun_induction spansFrom held text with
  | case1 held =>
      cases held with
      | none => exact found_of_noClosing (by simp [openText])
      | some name => exact found_of_noClosing (by simpa [openText] using noClosing)
  | case2 character text induction =>
      by_cases opening : character = '{'
      · subst opening
        simpa [openText] using induction (by simp)
      · simp only [opening, if_false] at induction ⊢
        exact (induction noClosing).cons fun name after isMatch =>
          opening (List.cons.inj isMatch.text_eq).1
  | case3 held text empty induction =>
      obtain rfl := List.isEmpty_iff.1 empty
      exact (induction (by simp)).emptySpan
  | case4 held text nonempty induction =>
      have found := induction (by simp)
      have nameNonempty : held.reverse ≠ [] := by simpa using nonempty
      have nameOpen : '}' ∉ held.reverse := by simpa using noClosing
      simpa [openText] using found.closedSpan nameNonempty nameOpen
  | case5 character text held closing induction =>
      simpa [openText] using induction (by simpa [Ne.symm closing] using noClosing)

/-- What the scan of a text gives is what the search finds, and nothing else. -/
theorem found_iff {names : List String} : Found text names ↔ names = spansFrom none text := by
  have scanned : Found text (spansFrom none text) := found_openText none text (by simp)
  constructor
  · intro found
    exact found.unique scanned
  · rintro rfl
    exact scanned

end Template
end Stencil
