import Stencil.Proofs.Template.Grammar

/-!
# The first offence of a text

A text that is no template commits one offence first.  What stands before the offending brace, or
before the placeholder that it spoils, is a template, and this tells the offence and its position
from the text.  Reading stops at this offence and reports it, whatever else is wrong behind it.
-/

namespace Stencil
namespace Template

open Text

/-- Whether a text is a template. -/
def Accepted (text : List Char) : Prop :=
  ∃ template, parse (String.ofList text) = .ok template

/-- What it is for a text to commit an offence.  The position is that of the offending brace, and of
the opening brace where the placeholder is empty or unclosed. -/
inductive Commits (text : List Char) : SyntaxError → Prop
  /-- A closing brace follows a template. -/
  | unmatched {before after : List Char} (accepted : Accepted before)
      (text_eq : text = before ++ '}' :: after) :
      Commits text ⟨byteLength before, .unmatchedCloseBrace⟩
  /-- An opening brace follows another one, and no brace stands between them. -/
  | nested {before between after : List Char} (accepted : Accepted before)
      (plain : BraceFree between)
      (text_eq : text = before ++ '{' :: (between ++ '{' :: after)) :
      Commits text ⟨byteLength (before ++ '{' :: between), .nestedOpenBrace⟩
  /-- Nothing but white space stands between an opening and a closing brace. -/
  | empty {before blank after : List Char} (accepted : Accepted before)
      (blanks : ∀ character ∈ blank, isBlank character = true)
      (text_eq : text = before ++ '{' :: (blank ++ '}' :: after)) :
      Commits text ⟨byteLength before, .emptyPlaceholder⟩
  /-- No brace follows an opening brace. -/
  | unclosed {before after : List Char} (accepted : Accepted before) (plain : BraceFree after)
      (text_eq : text = before ++ '{' :: after) :
      Commits text ⟨byteLength before, .unclosedPlaceholder⟩

theorem accepted_iff {text : List Char} :
    Accepted text ↔ ∃ template : Template, template.Canonical ∧ template.characters = text := by
  refine exists_congr fun template => ?_
  rw [parse_eq_ok_iff, ← String.toList_inj, String.toList_ofList, characters]

/-- Literal text after complete pieces is a template. -/
theorem accepted_characters_append {before : Template} {held : List Char}
    (canonical : before.Canonical) (closed : before.EndsClosed) (plain : BraceFree held) :
    Accepted (before.characters ++ held) :=
  accepted_iff.2 ⟨before.appendText held, canonical.appendText closed plain,
    characters_appendText before held⟩

theorem braceFree_of_blank {text : List Char}
    (blanks : ∀ character ∈ text, isBlank character = true) : BraceFree text := by
  have opening : isBlank '{' = false := by decide
  have closing : isBlank '}' = false := by decide
  constructor
  · intro member
    exact absurd (blanks _ member) (by simp [opening])
  · intro member
    exact absurd (blanks _ member) (by simp [closing])

namespace Reading

variable {past text : List Char} {reading : Reading} {error : SyntaxError}

/-! ## What stops the reader is an offence -/

/-- The reader is stopped by one character, and reads all characters before it. -/
theorem exists_of_foldlM_step_error (stopped : text.foldlM step reading = .error error) :
    ∃ before character after middle, text = before ++ character :: after ∧
      before.foldlM step reading = .ok middle ∧ middle.step character = .error error := by
  induction text generalizing reading with
  | nil => cases stopped
  | cons character text induction =>
      cases next : reading.step character with
      | error found =>
          rw [foldlM_step_of_error next] at stopped
          obtain rfl := Except.error.inj stopped
          exact ⟨[], character, text, reading, rfl, rfl, next⟩
      | ok following =>
          rw [foldlM_step_of_ok next] at stopped
          obtain ⟨before, offender, after, middle, rfl, read, stops⟩ := induction stopped
          exact ⟨character :: before, offender, after, middle, rfl,
            (foldlM_step_of_ok next).trans read, stops⟩

/-- Outside every placeholder only a closing brace stops the reader. -/
theorem step_outside_eq_error {before : Template} {held : List Char} {character : Char}
    (stops : (outside before held).step character = .error error) :
    character = '}' ∧ error = ⟨byteLength (before.characters ++ held), .unmatchedCloseBrace⟩ := by
  by_cases opening : character = '{'
  · subst opening
    rw [step_outside_opening] at stops
    cases stops
  by_cases closing : character = '}'
  · subst closing
    rw [step_outside_closing] at stops
    exact ⟨rfl, (Except.error.inj stops).symm⟩
  rw [step_outside_plain opening closing] at stops
  cases stops

/-- Inside a placeholder an opening brace stops the reader, and so does a closing brace when there
is no name. -/
theorem step_inside_eq_error {before : Template} {front held : List Char} {character : Char}
    (stops : (inside before front held).step character = .error error) :
    (character = '{' ∧
        error = ⟨byteLength (before.characters ++ '{' :: held), .nestedOpenBrace⟩) ∨
      (character = '}' ∧ held.all isBlank = true ∧
        error = ⟨byteLength before.characters, .emptyPlaceholder⟩) := by
  by_cases opening : character = '{'
  · subst opening
    rw [step_inside_opening] at stops
    exact .inl ⟨rfl, (Except.error.inj stops).symm⟩
  by_cases closing : character = '}'
  · subst closing
    cases blank : held.all isBlank with
    | true =>
        rw [step_inside_closing_of_blank blank] at stops
        exact .inr ⟨rfl, rfl, (Except.error.inj stops).symm⟩
    | false =>
        rw [step_inside_closing blank] at stops
        cases stops
  rw [step_inside_plain opening closing] at stops
  cases stops

/-- A character that stops a reached state is the brace that commits the offence. -/
theorem Reached.commits_of_step {character : Char} (reached : Reached past reading)
    (stops : reading.step character = .error error) (after : List Char) :
    Commits (past ++ character :: after) error := by
  cases reached with
  | outside before held canonical closed plain past_eq reading_eq =>
      subst past_eq reading_eq
      obtain ⟨rfl, rfl⟩ := step_outside_eq_error stops
      exact .unmatched (accepted_characters_append canonical closed plain) rfl
  | inside before front held canonical began plain past_eq reading_eq =>
      subst past_eq reading_eq
      have accepted : Accepted before.characters := accepted_iff.2 ⟨before, canonical, rfl⟩
      have text_eq : before.characters ++ '{' :: held ++ character :: after =
          before.characters ++ '{' :: (held ++ character :: after) := by
        simp
      rcases step_inside_eq_error stops with ⟨rfl, rfl⟩ | ⟨rfl, blank, rfl⟩
      · exact .nested accepted plain text_eq
      · exact .empty accepted (List.all_eq_true.1 blank) text_eq

/-- A reached state in which the text must not end is inside a placeholder. -/
theorem Reached.commits_of_finish (reached : Reached past reading)
    (stops : reading.finish = .error error) : Commits past error := by
  cases reached with
  | outside before held canonical closed plain past_eq reading_eq =>
      rw [reading_eq, finish_outside] at stops
      cases stops
  | inside before front held canonical began plain past_eq reading_eq =>
      rw [reading_eq, finish_inside] at stops
      obtain rfl := Except.error.inj stops
      exact .unclosed (accepted_iff.2 ⟨before, canonical, rfl⟩) plain past_eq

/-! ## An offence stops the reader -/

/-- Behind a template the reader is outside every placeholder. -/
theorem exists_outside_of_accepted (accepted : Accepted past) :
    ∃ before held, before.characters ++ held = past ∧
      ∀ rest, (past ++ rest).foldlM step start = rest.foldlM step (outside before held) := by
  obtain ⟨template, read⟩ := accepted
  rw [parse, String.toList_ofList] at read
  cases run : past.foldlM step start with
  | error error =>
      rw [run] at read
      cases read
  | ok reading =>
      rw [run] at read
      cases reached_start.foldlM_step run with
      | outside before held canonical closed plain past_eq reading_eq =>
          refine ⟨before, held, past_eq.symm, fun rest => ?_⟩
          rw [List.foldlM_append, run, reading_eq]
          rfl
      | inside before front held canonical began plain past_eq reading_eq =>
          subst reading_eq
          cases read

/-- Behind a template, an opening brace and text without a brace the reader is inside a placeholder,
and the template is what it has made of the text before the brace. -/
theorem exists_inside_of_accepted (accepted : Accepted past) (plain : BraceFree text) :
    ∃ before front, before.characters = past ∧
      ∀ rest, (past ++ '{' :: (text ++ rest)).foldlM step start =
        rest.foldlM step (inside before front text) := by
  obtain ⟨before, held, rfl, behind⟩ := exists_outside_of_accepted accepted
  refine ⟨before.appendText held, before.characters, characters_appendText before held, ?_⟩
  intro rest
  rw [behind, foldlM_step_of_ok step_outside_opening, foldlM_step_inside_plain plain,
    List.nil_append]

end Reading

/-- Reading reports an offence that is committed. -/
theorem parse_of_commits {text : String} {error : SyntaxError}
    (commits : Commits text.toList error) : parse text = .error error := by
  cases commits with
  | unmatched accepted text_eq =>
      obtain ⟨before, held, rfl, behind⟩ := Reading.exists_outside_of_accepted accepted
      rw [parse, text_eq, behind, Reading.foldlM_step_of_error Reading.step_outside_closing]
      rfl
  | nested accepted plain text_eq =>
      obtain ⟨before, front, rfl, behind⟩ := Reading.exists_inside_of_accepted accepted plain
      rw [parse, text_eq, behind, Reading.foldlM_step_of_error Reading.step_inside_opening]
      rfl
  | empty accepted blanks text_eq =>
      obtain ⟨before, front, rfl, behind⟩ :=
        Reading.exists_inside_of_accepted accepted (braceFree_of_blank blanks)
      have blank := List.all_eq_true.2 blanks
      rw [parse, text_eq, behind,
        Reading.foldlM_step_of_error (Reading.step_inside_closing_of_blank blank)]
      rfl
  | unclosed accepted plain text_eq =>
      obtain ⟨before, front, rfl, behind⟩ := Reading.exists_inside_of_accepted accepted plain
      have atEnd := behind []
      rw [List.append_nil] at atEnd
      rw [parse, text_eq, atEnd]
      rfl

/-- Reading fails exactly with the offences that are committed. -/
theorem parse_eq_error_iff {text : String} {error : SyntaxError} :
    parse text = .error error ↔ Commits text.toList error := by
  constructor
  · intro failed
    rw [parse] at failed
    cases run : text.toList.foldlM Reading.step Reading.start with
    | error found =>
        rw [run] at failed
        obtain rfl := Except.error.inj failed
        obtain ⟨before, character, after, middle, text_eq, read, stops⟩ :=
          Reading.exists_of_foldlM_step_error run
        have reached := Reading.reached_start.foldlM_step read
        exact text_eq ▸ reached.commits_of_step stops after
    | ok reading =>
        rw [run] at failed
        exact (Reading.reached_start.foldlM_step run).commits_of_finish failed
  · exact parse_of_commits

/-- Reading reports exactly the first offence of a text.  A text either is a template and commits no
offence, or commits one offence at one position. -/
theorem parse_reports_first_offence (text : String) :
    (∀ error, parse text = .error error ↔ Commits text.toList error) ∧
      ((Accepted text.toList ∧ ∀ error, ¬ Commits text.toList error) ∨
        (¬ Accepted text.toList ∧ ∃! error, Commits text.toList error)) := by
  refine ⟨fun error => parse_eq_error_iff, ?_⟩
  simp only [Accepted, String.ofList_toList, ← parse_eq_error_iff]
  cases read : parse text with
  | ok template =>
      refine .inl ⟨⟨template, rfl⟩, fun error failed => ?_⟩
      cases failed
  | error error =>
      refine .inr ⟨?_, error, rfl, fun other failed => (Except.error.inj failed).symm⟩
      rintro ⟨template, accepted⟩
      cases accepted

example : parse "é{a}→\x7b {b}" = .error ⟨10, .nestedOpenBrace⟩ := by decide

end Template
end Stencil
