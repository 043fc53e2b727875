import Stencil.Proofs.Template.Grammar
import Stencil.Proofs.Template.Spans

/-!
# The names in a template

The names of a text are its spans, each once and in order.  In the text of a canonical template the
spans are the names in the placeholders.
-/

namespace Stencil
namespace Template

open Text

/-! ## Lists of names -/

theorem mem_insertName_iff {name other : String} {names : List String} :
    other ∈ insertName name names ↔ other = name ∨ other ∈ names := by
  induction names with
  | nil => simp [insertName]
  | cons head names induction =>
      simp only [insertName]
      split
      · simp
      · split
        next equal => simp [equal]
        next => simp [induction, or_left_comm]

theorem pairwise_insertName {name : String} {names : List String}
    (sorted : names.Pairwise (· < ·)) : (insertName name names).Pairwise (· < ·) := by
  induction names with
  | nil => simp [insertName]
  | cons head names induction =>
      obtain ⟨above, rest⟩ := List.pairwise_cons.1 sorted
      simp only [insertName]
      split
      next before =>
        refine List.pairwise_cons.2 ⟨fun other member => ?_, sorted⟩
        rcases List.mem_cons.1 member with rfl | inside
        · exact before
        · exact String.lt_trans before (above other inside)
      next notBefore =>
        split
        next => exact sorted
        next different =>
          refine List.pairwise_cons.2 ⟨fun other member => ?_, induction rest⟩
          rcases mem_insertName_iff.1 member with rfl | inside
          · exact String.not_le.1 fun least =>
              different (String.le_antisymm least (String.not_lt.1 notBefore))
          · exact above other inside

theorem mem_names_iff {text name : String} : name ∈ names text ↔ name ∈ spans text := by
  rw [names]
  induction spans text with
  | nil => simp
  | cons head rest induction => simp [mem_insertName_iff, induction]

theorem pairwise_names (text : String) : (names text).Pairwise (· < ·) := by
  rw [names]
  induction spans text with
  | nil => simp
  | cons head rest induction => exact pairwise_insertName induction

/-! ## Spans of templates -/

private theorem ne_nil_of_visible {name : List Char}
    (visible : ∃ character ∈ name, isBlank character = false) : name ≠ [] := by
  rintro rfl
  simp at visible

/-- Behind a template the scan starts afresh. -/
theorem spansFrom_characters_append {template : Template}
    (segments : ∀ segment ∈ template, segment.Canonical) (rest : List Char) :
    spansFrom none (template.characters ++ rest) =
      template.placeholders ++ spansFrom none rest := by
  induction template with
  | nil => simp
  | cons segment template induction =>
      obtain ⟨piece, others⟩ := List.forall_mem_cons.1 segments
      cases segment with
      | literal text =>
          obtain ⟨-, noOpening, -⟩ := piece
          rw [characters_cons, Segment.source_literal, List.append_assoc,
            spansFrom_none_append noOpening, induction others, placeholders_cons_literal]
      | placeholder name =>
          obtain ⟨⟨-, noClosing⟩, visible⟩ := piece
          have shape : characters (.placeholder name :: template) ++ rest =
              '{' :: (name.toList ++ '}' :: (characters template ++ rest)) := by
            simp
          rw [shape, spansFrom_closed (ne_nil_of_visible visible) noClosing, induction others,
            String.ofList_toList, placeholders_cons_placeholder, List.cons_append]

/-- The spans of a text that is a template are the names in its placeholders, in order. -/
theorem spans_of_parse {text : String} {template : Template} (read : parse text = .ok template) :
    spans text = template.placeholders := by
  obtain ⟨canonical, rfl⟩ := parse_eq_ok_iff.1 read
  have scanned := spansFrom_characters_append canonical.segments []
  simpa [spansFrom, spans, characters] using scanned

theorem mem_names_of_parse {text name : String} {template : Template}
    (read : parse text = .ok template) : name ∈ names text ↔ name ∈ template.placeholders := by
  rw [mem_names_iff, spans_of_parse read]

/-- The names of a text that is a template are the names in its placeholders.  The search that
gives them meets the placeholders one by one. -/
theorem names_eq_placeholders {text : String} {template : Template}
    (read : parse text = .ok template) :
    (∀ name, name ∈ names text ↔ .placeholder name ∈ template) ∧
      (names text).Pairwise (· < ·) ∧
      ∀ found, Found text.toList found ↔ found = template.placeholders := by
  refine ⟨fun name => ?_, pairwise_names text, fun found => ?_⟩
  · rw [mem_names_of_parse read, mem_placeholders_iff]
  · rw [found_iff, ← spans_of_parse read, spans]

/-- Names with blank ends and names that occur twice are found between multi-byte characters. -/
theorem names_eq_placeholders_repeated :
    parse "é{x}{ y }→{x}" =
        .ok [.literal "é", .placeholder "x", .placeholder " y ", .literal "→", .placeholder "x"] ∧
      (∀ name, name ∈ names "é{x}{ y }→{x}" ↔ name = "x" ∨ name = " y ") ∧
      Found "é{x}{ y }→{x}".toList ["x", " y ", "x"] := by
  have read : parse "é{x}{ y }→{x}" =
      .ok [.literal "é", .placeholder "x", .placeholder " y ", .literal "→", .placeholder "x"] := by
    decide
  obtain ⟨mentioned, -, search⟩ := names_eq_placeholders read
  refine ⟨read, fun name => ?_, (search _).2 rfl⟩
  rw [mentioned name]
  simp
  tauto

end Template
end Stencil
