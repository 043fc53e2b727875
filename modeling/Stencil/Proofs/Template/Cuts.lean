import Stencil.Proofs.Template.Names

/-!
# Names and closing braces

A text is cut at its closing braces.  Each piece but the last ends at a closing brace and gives at
most one name, what follows its first opening brace.  These are the names of the text, also where it
is no template.
-/

namespace Stencil
namespace Template

/-- A text without a closing brace is its last piece, and in any other text a first piece comes
before the rest. -/
@[elab_as_elim]
theorem cut_induction {motive : List Char → Prop} (last : ∀ text, '}' ∉ text → motive text)
    (cut : ∀ piece rest, '}' ∉ piece → motive rest → motive (piece ++ '}' :: rest))
    (text : List Char) : motive text := by
  by_cases closes : '}' ∈ text
  · obtain ⟨piece, rest, rfl, noClosing⟩ := List.eq_append_cons_of_mem closes
    exact cut piece rest noClosing (cut_induction last cut rest)
  · exact last text closes
termination_by text.length

/-! ## The name in a piece -/

/-- What follows the first opening brace of a piece, if anything does. -/
def nameIn? : List Char → Option String
  | [] => none
  | character :: piece =>
    if character ≠ '{' then nameIn? piece
    else if piece = [] then none
    else some (String.ofList piece)

theorem nameIn?_eq_some_iff {piece : List Char} {name : String} :
    nameIn? piece = some name ↔
      name ≠ "" ∧ ∃ front, '{' ∉ front ∧ piece = front ++ '{' :: name.toList := by
  induction piece with
  | nil => simp [nameIn?]
  | cons character piece induction =>
      by_cases opening : character = '{'
      · subst opening
        constructor
        · intro found
          by_cases empty : piece = []
          · simp [nameIn?, empty] at found
          · obtain rfl : String.ofList piece = name := by simpa [nameIn?, empty] using found
            exact ⟨by simpa using empty, [], by simp, by simp⟩
        · rintro ⟨nonempty, front, noOpening, shape⟩
          cases front with
          | nil =>
              obtain rfl : piece = name.toList := (List.cons.inj shape).2
              simp [nameIn?, nonempty]
          | cons head front =>
              obtain rfl := (List.cons.inj shape).1
              exact absurd List.mem_cons_self noOpening
      · have skipped : nameIn? (character :: piece) = nameIn? piece := by simp [nameIn?, opening]
        rw [skipped, induction]
        apply and_congr_right
        intro _
        constructor
        · rintro ⟨front, noOpening, rfl⟩
          exact ⟨character :: front, by simp [Ne.symm opening, noOpening], rfl⟩
        · rintro ⟨front, noOpening, shape⟩
          cases front with
          | nil => exact absurd (List.cons.inj shape).1 opening
          | cons head front =>
              have rest := (List.cons.inj shape).2
              exact ⟨front, fun member => noOpening (List.mem_cons_of_mem head member), rest⟩

/-! ## The names of all pieces -/

theorem spansFrom_of_noClosing {text : List Char} (noClosing : '}' ∉ text) :
    spansFrom none text = [] := by
  have noMatch : ∀ before name after, ¬ IsMatch text before name after := by
    intro before name after isMatch
    apply noClosing
    simp [isMatch.text_eq]
  exact (found_iff.1 (.missed noMatch)).symm

/-- A piece before a closing brace gives its name, and then the scan starts afresh. -/
theorem spansFrom_piece {piece : List Char} (noClosing : '}' ∉ piece) (rest : List Char) :
    spansFrom none (piece ++ '}' :: rest) = (nameIn? piece).toList ++ spansFrom none rest := by
  induction piece with
  | nil => simp [spansFrom, nameIn?]
  | cons character piece induction =>
      obtain ⟨-, others⟩ := not_or.1 (mt List.mem_cons.2 noClosing)
      by_cases opening : character = '{'
      · subst opening
        by_cases empty : piece = []
        · simp [empty, spansFrom, nameIn?]
        · have closed := spansFrom_closed empty others rest
          simpa [nameIn?, empty] using closed
      · have skipped : nameIn? (character :: piece) = nameIn? piece := by simp [nameIn?, opening]
        rw [skipped, ← induction others]
        simp [spansFrom, opening]

/-- The scan finds the names of the pieces that end at a closing brace. -/
theorem spansFrom_eq_filterMap (text : List Char) :
    spansFrom none text = (text.splitOn '}').dropLast.filterMap nameIn? := by
  induction text using cut_induction with
  | last text noClosing =>
      rw [spansFrom_of_noClosing noClosing, List.splitOn_eq_singleton noClosing]
      rfl
  | cut piece rest noClosing induction =>
      have others : rest.splitOn '}' ≠ [] := List.splitOn_ne_nil '}' rest
      rw [spansFrom_piece noClosing, induction,
        List.splitOn_append_cons_self_of_not_mem noClosing, List.dropLast_cons_of_ne_nil others]
      cases named : nameIn? piece <;> simp [named]

/-- What stands behind the last closing brace gives no name. -/
theorem spansFrom_append_of_noClosing {tail : List Char} (noClosing : '}' ∉ tail)
    (text : List Char) : spansFrom none (text ++ tail) = spansFrom none text := by
  induction text using cut_induction with
  | last text none =>
      have whole : '}' ∉ text ++ tail := by simp [none, noClosing]
      rw [spansFrom_of_noClosing whole, spansFrom_of_noClosing none]
  | cut piece rest inside induction =>
      rw [List.append_assoc, List.cons_append, spansFrom_piece inside, spansFrom_piece inside,
        induction]

/-- A name stands in the text between an opening brace and the next closing brace. -/
theorem of_mem_spansFrom {text : List Char} {name : String} (found : name ∈ spansFrom none text) :
    name ≠ "" ∧ '}' ∉ name.toList ∧
      ∃ before after, text = before ++ '{' :: (name.toList ++ '}' :: after) := by
  induction text using cut_induction with
  | last text noClosing =>
      rw [spansFrom_of_noClosing noClosing] at found
      exact absurd found List.not_mem_nil
  | cut piece rest noClosing induction =>
      rw [spansFrom_piece noClosing, List.mem_append] at found
      rcases found with here | later
      · have named : nameIn? piece = some name := Option.mem_toList.1 here
        obtain ⟨nonempty, front, -, rfl⟩ := nameIn?_eq_some_iff.1 named
        have noneInName : '}' ∉ name.toList := by
          intro member
          exact noClosing (List.mem_append_right _ (List.mem_cons_of_mem _ member))
        exact ⟨nonempty, noneInName, front, rest, by simp⟩
      · obtain ⟨nonempty, noneInName, before, after, rfl⟩ := induction later
        exact ⟨nonempty, noneInName, piece ++ '}' :: before, after, by simp⟩

/-- The names of a text are what follows the first opening brace in the pieces that end at a closing
brace, each once and in order, and the search meets them piece by piece.  Any text without a closing
brace can be a name, and what is never closed is none. -/
theorem names_are_cut_at_closing_braces (text : String) :
    (∀ name, name ∈ names text ↔ name ≠ "" ∧ ∃ piece ∈ (text.toList.splitOn '}').dropLast,
      ∃ front, '{' ∉ front ∧ piece = front ++ '{' :: name.toList) ∧
    (names text).Pairwise (· < ·) ∧
    (∀ found, Found text.toList found ↔
      found = (text.toList.splitOn '}').dropLast.filterMap nameIn?) ∧
    (∀ name ∈ names text, name ≠ "" ∧ '}' ∉ name.toList ∧
      ∃ before after, text.toList = before ++ '{' :: (name.toList ++ '}' :: after)) ∧
    (∀ name : String, name ≠ "" → '}' ∉ name.toList → names ("\x7b" ++ name ++ "\x7d") = [name]) ∧
    ∀ tail : String, '}' ∉ tail.toList → names (text ++ tail) = names text := by
  refine ⟨fun name => ?_, pairwise_names text, fun found => ?_, fun name mentioned => ?_,
    fun name nonempty noClosing => ?_, fun tail noClosing => ?_⟩
  · rw [mem_names_iff, spans, spansFrom_eq_filterMap, List.mem_filterMap]
    simp only [nameIn?_eq_some_iff]
    constructor
    · rintro ⟨piece, inside, nonempty, shape⟩
      exact ⟨nonempty, piece, inside, shape⟩
    · rintro ⟨nonempty, piece, inside, shape⟩
      exact ⟨piece, inside, nonempty, shape⟩
  · rw [found_iff, spansFrom_eq_filterMap]
  · exact of_mem_spansFrom (mem_names_iff.1 mentioned)
  · have shape : ("\x7b" ++ name ++ "\x7d").toList = '{' :: (name.toList ++ '}' :: []) := by
      simp
    have closed : spans ("\x7b" ++ name ++ "\x7d") = [name] := by
      rw [spans, shape, spansFrom_closed (by simpa using nonempty) noClosing, String.ofList_toList]
      rfl
    rw [names, closed]
    rfl
  · rw [names, spans, String.toList_append, spansFrom_append_of_noClosing noClosing]
    rfl

example : names "\x7ba\x7bb\x7d\x7b\x7d\x7d→\x7b\n\x7d\x7ba\x7bb\x7d\x7bc" = ["\n", "a\x7bb"] := by
  decide

end Template
end Stencil
