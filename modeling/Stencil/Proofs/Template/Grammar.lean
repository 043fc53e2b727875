import Stencil.Proofs.Template.Reading

/-!
# The grammar of templates

The texts that can be read as templates are the texts of canonical templates, and each of them is
the text of one canonical template only, the one that is read.
-/

namespace Stencil
namespace Template

open Text

namespace Reading

/-- The template that a reached state ends with is canonical, and its text is what was read. -/
theorem Reached.finish {past : List Char} {reading : Reading} {template : Template}
    (reached : Reached past reading) (finished : reading.finish = .ok template) :
    template.Canonical ∧ template.characters = past := by
  cases reached with
  | outside before held canonical closed plain past_eq reading_eq =>
      rw [reading_eq, finish_outside] at finished
      obtain rfl := Except.ok.inj finished
      exact ⟨canonical.appendText closed plain, by simp [past_eq]⟩
  | inside before front held canonical began plain past_eq reading_eq =>
      rw [reading_eq, finish_inside] at finished
      exact nomatch finished

private theorem held_eq_nil {before after : Template} {held : List Char} {text : String}
    (canonical : Canonical (before.appendText held ++ .literal text :: after)) : held = [] := by
  by_contra nonempty
  rw [appendText_of_ne_nil before nonempty] at canonical
  obtain ⟨-, -, seam⟩ := Canonical.append_iff.1 canonical
  have touching := seam (.literal (String.ofList held)) (by simp) (.literal text) (by simp)
  simp [Segment.isLiteral] at touching

/-- The rest of a canonical template is read piece by piece. -/
theorem foldlM_step_characters {before after : Template} {held : List Char}
    (canonical : Canonical (before.appendText held ++ after)) :
    (after.characters.foldlM step (outside before held) >>= finish) =
      .ok (before.appendText held ++ after) := by
  induction after generalizing before held with
  | nil =>
      change (outside before held).finish = _
      rw [finish_outside, List.append_nil]
  | cons segment after induction =>
      have piece : segment.Canonical := canonical.segments segment (by simp)
      cases segment with
      | literal text =>
          obtain rfl := held_eq_nil canonical
          obtain ⟨nonempty, plain⟩ := piece
          have pieces : before.appendText text.toList = before ++ [.literal text] := by
            rw [appendText_of_ne_nil before (by simpa using nonempty), String.ofList_toList]
          have whole : before.appendText text.toList ++ after =
              before.appendText [] ++ .literal text :: after := by
            simp [pieces]
          rw [characters_cons, Segment.source_literal, foldlM_step_outside_plain plain,
            List.nil_append, induction (whole ▸ canonical), whole]
      | placeholder name =>
          obtain ⟨plain, character, member, visible⟩ := piece
          have named : name.toList.all isBlank = false :=
            List.all_eq_false.2 ⟨character, member, by simp [visible]⟩
          let pieces : Template := before.appendText held ++ [.placeholder name]
          have whole : pieces.appendText [] ++ after =
              before.appendText held ++ .placeholder name :: after := by
            simp [pieces]
          have shape : characters (.placeholder name :: after) =
              '{' :: (name.toList ++ '}' :: characters after) := by
            simp
          rw [shape, foldlM_step_placeholder plain named, String.ofList_toList,
            induction (whole ▸ canonical), whole]

end Reading

/-- Reading finds a template exactly if it is canonical and the text is its text. -/
theorem parse_eq_ok_iff {text : String} {template : Template} :
    parse text = .ok template ↔ template.Canonical ∧ template.source = text := by
  constructor
  · intro read
    cases run : text.toList.foldlM Reading.step Reading.start with
    | error error =>
        rw [parse, run] at read
        exact nomatch read
    | ok reading =>
        rw [parse, run] at read
        have reached := Reading.reached_start.foldlM_step run
        obtain ⟨canonical, characters_eq⟩ := reached.finish read
        exact ⟨canonical, String.toList_inj.1 characters_eq⟩
  · rintro ⟨canonical, rfl⟩
    have start : Canonical (appendText [] [] ++ template) := canonical
    exact Reading.foldlM_step_characters start

/-- Reading accepts exactly the texts of canonical templates and inverts writing them. -/
theorem parse_inverts_source (text : String) :
    (∀ template, parse text = .ok template → template.Canonical ∧ template.source = text) ∧
      (∀ template : Template, template.Canonical → parse template.source = .ok template) ∧
      ((∃ template, parse text = .ok template) ↔
        ∃ template : Template, template.Canonical ∧ template.source = text) ∧
      ∀ first second : Template, first.Canonical → second.Canonical →
        first.source = text → second.source = text → first = second := by
  refine ⟨fun template => parse_eq_ok_iff.1, fun template canonical => ?_, ?_, ?_⟩
  · exact parse_eq_ok_iff.2 ⟨canonical, rfl⟩
  · exact exists_congr fun template => parse_eq_ok_iff
  · intro first second firstCanonical secondCanonical firstSource secondSource
    have readFirst : parse text = .ok first := parse_eq_ok_iff.2 ⟨firstCanonical, firstSource⟩
    have readSecond : parse text = .ok second := parse_eq_ok_iff.2 ⟨secondCanonical, secondSource⟩
    exact Except.ok.inj (readFirst.symm.trans readSecond)

example : Canonical [.literal "é", .placeholder "x", .placeholder " y ", .literal "→"] := by decide

example : ¬ Canonical [.literal "a", .literal "b"] ∧ ¬ Canonical [.placeholder "\u2003"] := by
  decide

end Template
end Stencil
