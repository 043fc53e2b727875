import Stencil.Proofs.Template.Canonical
import Stencil.Template.Parser

/-!
# The states of the template reader

Between two characters the reader is outside every placeholder or inside one, and its state is fixed
by the pieces that are complete and the characters since the last brace.  Each step leads from such
a state to another or stops the reader, and the pieces give back the text that was read.
-/

namespace Stencil
namespace Template

open Text

theorem byteLength_pos {text : List Char} (nonempty : text ≠ []) : 0 < byteLength text := by
  cases text with
  | nil => exact absurd rfl nonempty
  | cons character text =>
      have size := character.utf8Size_pos
      simp only [byteLength_cons]
      omega

namespace Reading

variable {before : Template} {front held text : List Char}

/-- The reader outside every placeholder, in literal text that follows complete pieces. -/
def outside (before : Template) (held : List Char) : Reading where
  position := byteLength (before.characters ++ held)
  literalStart := byteLength before.characters
  opened := none
  held := held.reverse
  segments := before.reverse

/-- The reader inside a placeholder that follows complete pieces.  The literal text before the open
brace began behind `front`. -/
def inside (before : Template) (front held : List Char) : Reading where
  position := byteLength (before.characters ++ '{' :: held)
  literalStart := byteLength front
  opened := some (byteLength before.characters)
  held := held.reverse
  segments := before.reverse

theorem endLiteral_outside (before : Template) (held : List Char) :
    (outside before held).endLiteral = (before.appendText held).reverse := by
  by_cases empty : held = []
  · subst held
    simp [endLiteral, outside]
  · have size := byteLength_pos empty
    simp [endLiteral, outside, heldText, size, appendText_of_ne_nil before empty]

/-! ## Single steps -/

theorem step_outside_opening :
    (outside before held).step '{' =
      .ok (inside (before.appendText held) before.characters []) := by
  have size : '{'.utf8Size = 1 := rfl
  simp only [step, openBrace, if_pos, endLiteral_outside]
  simp [outside, inside, size, Nat.add_assoc]

theorem step_outside_closing :
    (outside before held).step '}' =
      .error ⟨byteLength (before.characters ++ held), .unmatchedCloseBrace⟩ := rfl

theorem step_outside_plain {character : Char} (notOpening : character ≠ '{')
    (notClosing : character ≠ '}') :
    (outside before held).step character = .ok (outside before (held ++ [character])) := by
  simp [step, notOpening, notClosing, hold, outside, Nat.add_assoc]

theorem step_inside_opening :
    (inside before front held).step '{' =
      .error ⟨byteLength (before.characters ++ '{' :: held), .nestedOpenBrace⟩ := rfl

theorem step_inside_closing_of_blank (blank : held.all isBlank = true) :
    (inside before front held).step '}' =
      .error ⟨byteLength before.characters, .emptyPlaceholder⟩ := by
  simp [step, closeBrace, inside, blank]

theorem step_inside_closing (named : held.all isBlank = false) :
    (inside before front held).step '}' =
      .ok (outside (before ++ [.placeholder (String.ofList held)]) []) := by
  have opening : '{'.utf8Size = 1 := rfl
  have closing : '}'.utf8Size = 1 := rfl
  simp [step, closeBrace, inside, outside, heldText, named, opening, closing, Nat.add_assoc]

theorem step_inside_plain {character : Char} (notOpening : character ≠ '{')
    (notClosing : character ≠ '}') :
    (inside before front held).step character =
      .ok (inside before front (held ++ [character])) := by
  simp [step, notOpening, notClosing, hold, inside, Nat.add_assoc]

theorem finish_outside : (outside before held).finish = .ok (before.appendText held) := by
  change Except.ok (outside before held).endLiteral.reverse = _
  rw [endLiteral_outside, List.reverse_reverse]

theorem finish_inside :
    (inside before front held).finish =
      .error ⟨byteLength before.characters, .unclosedPlaceholder⟩ := rfl

/-! ## Stretches of text -/

theorem foldlM_step_of_ok {reading after : Reading} {character : Char}
    (next : reading.step character = .ok after) :
    (character :: text).foldlM step reading = text.foldlM step after := by
  rw [List.foldlM_cons, next]
  rfl

theorem foldlM_step_of_error {reading : Reading} {character : Char} {error : SyntaxError}
    (stops : reading.step character = .error error) :
    (character :: text).foldlM step reading = .error error := by
  rw [List.foldlM_cons, stops]
  rfl

theorem foldlM_step_outside_plain (plain : BraceFree text) (rest : List Char) :
    (text ++ rest).foldlM step (outside before held) =
      rest.foldlM step (outside before (held ++ text)) := by
  induction text generalizing held with
  | nil => simp
  | cons character text induction =>
      obtain ⟨notOpening, notClosing, plain⟩ := braceFree_cons_iff.1 plain
      rw [List.cons_append, foldlM_step_of_ok (step_outside_plain notOpening notClosing),
        induction plain]
      simp

theorem foldlM_step_inside_plain (plain : BraceFree text) (rest : List Char) :
    (text ++ rest).foldlM step (inside before front held) =
      rest.foldlM step (inside before front (held ++ text)) := by
  induction text generalizing held with
  | nil => simp
  | cons character text induction =>
      obtain ⟨notOpening, notClosing, plain⟩ := braceFree_cons_iff.1 plain
      rw [List.cons_append, foldlM_step_of_ok (step_inside_plain notOpening notClosing),
        induction plain]
      simp

/-- A placeholder is read in one go: literal text ends and the name becomes a piece. -/
theorem foldlM_step_placeholder {name : List Char} (plain : BraceFree name)
    (named : name.all isBlank = false) (rest : List Char) :
    ('{' :: (name ++ '}' :: rest)).foldlM step (outside before held) =
      rest.foldlM step
        (outside (before.appendText held ++ [.placeholder (String.ofList name)]) []) := by
  rw [foldlM_step_of_ok step_outside_opening, foldlM_step_inside_plain plain,
    List.nil_append, foldlM_step_of_ok (step_inside_closing named)]

/-! ## The states that are reached -/

/-- What holds of a state that is reached by reading `past`. -/
inductive Reached (past : List Char) (reading : Reading) : Prop
  | outside (before : Template) (held : List Char) (canonical : before.Canonical)
      (closed : before.EndsClosed) (plain : BraceFree held)
      (past_eq : past = before.characters ++ held) (reading_eq : reading = outside before held)
  | inside (before : Template) (front held : List Char) (canonical : before.Canonical)
      (began : front <+: before.characters) (plain : BraceFree held)
      (past_eq : past = before.characters ++ '{' :: held)
      (reading_eq : reading = inside before front held)

theorem reached_start : Reached [] start :=
  .outside [] [] .nil endsClosed_nil braceFree_nil rfl rfl

private theorem braceFree_concat {character : Char} (plain : BraceFree held)
    (notOpening : character ≠ '{') (notClosing : character ≠ '}') :
    BraceFree (held ++ [character]) :=
  braceFree_append_iff.2
    ⟨plain, braceFree_cons_iff.2 ⟨notOpening, notClosing, braceFree_nil⟩⟩

/-- A step from a reached state that does not stop the reader leads to a reached state. -/
theorem Reached.step {past : List Char} {reading after : Reading} {character : Char}
    (reached : Reached past reading) (next : reading.step character = .ok after) :
    Reached (past ++ [character]) after := by
  cases reached with
  | outside before held canonical closed plain past_eq reading_eq =>
      subst past_eq reading_eq
      by_cases opening : character = '{'
      · subst opening
        rw [step_outside_opening] at next
        have after_eq := (Except.ok.inj next).symm
        refine .inside (before.appendText held) before.characters []
          (canonical.appendText closed plain) ?_ braceFree_nil ?_ ?_
        · simp
        · simp
        · exact after_eq
      by_cases closing : character = '}'
      · subst closing
        rw [step_outside_closing] at next
        exact nomatch next
      rw [step_outside_plain opening closing] at next
      exact .outside before (held ++ [character]) canonical closed
        (braceFree_concat plain opening closing) (by simp) (Except.ok.inj next).symm
  | inside before front held canonical began plain past_eq reading_eq =>
      subst past_eq reading_eq
      by_cases opening : character = '{'
      · subst opening
        rw [step_inside_opening] at next
        exact nomatch next
      by_cases closing : character = '}'
      · subst closing
        cases named : held.all isBlank with
        | true =>
            rw [step_inside_closing_of_blank named] at next
            exact nomatch next
        | false =>
            rw [step_inside_closing named] at next
            have after_eq := (Except.ok.inj next).symm
            refine .outside (before ++ [.placeholder (String.ofList held)]) []
              (canonical.appendPlaceholder plain named) ?_ braceFree_nil ?_ ?_
            · simp
            · simp
            · exact after_eq
      rw [step_inside_plain opening closing] at next
      exact .inside before front (held ++ [character]) canonical began
        (braceFree_concat plain opening closing) (by simp) (Except.ok.inj next).symm

/-- A stretch of text that does not stop the reader leads from a reached state to a reached one. -/
theorem Reached.foldlM_step {past : List Char} {reading after : Reading}
    (reached : Reached past reading) (read : text.foldlM Reading.step reading = .ok after) :
    Reached (past ++ text) after := by
  induction text generalizing past reading with
  | nil =>
      obtain rfl : reading = after := Except.ok.inj read
      simpa using reached
  | cons character text induction =>
      cases next : reading.step character with
      | error error =>
          rw [foldlM_step_of_error next] at read
          exact nomatch read
      | ok middle =>
          rw [foldlM_step_of_ok next] at read
          simpa using induction (reached.step next) read

end Reading
end Template
end Stencil
