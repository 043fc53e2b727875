import Stencil.Command.Colour
import Stencil.Command.Help

/-!
# Help texts in colours

Five variables and the terminal settle whether there are colours.  These add escape sequences to a
help text and nothing else, and they do add some.
-/

namespace Stencil

namespace Environment

theorem showsColours_congr {first second : Environment} (terminal : Bool)
    (same : ∀ name ∈ colourNames, first.get? name = second.get? name) :
    first.showsColours terminal = second.showsColours terminal := by
  have others : ∀ name ∈ colourNames, ∀ text,
      first.isOtherThan name text = second.isOtherThan name text := by
    intro name member text
    rw [isOtherThan, isOtherThan, same name member]
  simp only [colourNames, List.forall_mem_cons] at same others
  obtain ⟨-, -, colourSame, -, ciSame, -⟩ := same
  obtain ⟨noColour, force, colour, term, -⟩ := others
  rw [showsColours, showsColours, trustsTerminal, trustsTerminal, noColour, force, colour, term,
    colourSame, ciSame]

end Environment

namespace Help

variable {written : List Char}

/-- A text without its escape sequences, each of which ends with the letter `m`.  The text may begin
inside one. -/
def withoutEscapes : (inside : Bool) → List Char → List Char
  | _, [] => []
  | true, character :: text => withoutEscapes (character ≠ 'm') text
  | false, character :: text =>
    if character = '\x1b' then withoutEscapes true text
    else character :: withoutEscapes false text

theorem withoutEscapes_append (free : '\x1b' ∉ written) (rest : List Char) :
    withoutEscapes false (written ++ rest) = written ++ withoutEscapes false rest := by
  induction written with
  | nil => rfl
  | cons character written induction =>
      have notEscape : character ≠ '\x1b' := fun isEscape => free (isEscape ▸ List.mem_cons_self)
      rw [List.cons_append, withoutEscapes, if_neg notEscape,
        induction fun inside => free (List.mem_cons_of_mem character inside), List.cons_append]

@[simp]
theorem withoutEscapes_code (look : Look) (rest : List Char) :
    withoutEscapes false (look.code.toList ++ rest) = withoutEscapes false rest := by
  cases look <;> rfl

@[simp]
theorem withoutEscapes_reset (look : Look) (rest : List Char) :
    withoutEscapes false (look.reset.toList ++ rest) = withoutEscapes false rest := by
  cases look <;> rfl

/-- Whether no piece of a line has an escape character of its own. -/
def Line.IsClean (line : Line) : Prop :=
  ∀ piece ∈ line, '\x1b' ∉ piece.text.toList

instance : DecidablePred Line.IsClean := fun line =>
  inferInstanceAs (Decidable (∀ piece ∈ line, '\x1b' ∉ piece.text.toList))

theorem Piece.withoutEscapes_shown {piece : Piece} (clean : '\x1b' ∉ piece.text.toList)
    (coloured : Bool) (rest : List Char) :
    withoutEscapes false ((piece.shown coloured).toList ++ rest) =
      piece.text.toList ++ withoutEscapes false rest := by
  cases coloured with
  | false => exact withoutEscapes_append clean rest
  | true => simp [shown, withoutEscapes_append clean]

theorem Line.withoutEscapes_shown {line : Line} (clean : line.IsClean) (coloured : Bool)
    (rest : List Char) :
    withoutEscapes false ((line.shown coloured).toList ++ rest) =
      line.flatMap (·.text.toList) ++ '\n' :: withoutEscapes false rest := by
  induction line with
  | nil => simp [shown, withoutEscapes]
  | cons piece line induction =>
      obtain ⟨first, others⟩ := List.forall_mem_cons.1 clean
      have after := induction others
      simp only [shown, String.toList_append, String.toList_join, List.map_cons, List.flatMap_cons,
        List.append_assoc] at after ⊢
      rw [piece.withoutEscapes_shown first, after]

theorem Line.toList_shown_false (line : Line) :
    (line.shown false).toList = line.flatMap (·.text.toList) ++ ['\n'] := by
  simp [shown, Piece.shown, List.flatMap_map]

/-- Without its escape sequences a text is what it is without colours. -/
theorem withoutEscapes_lines {lines : List Line} (clean : ∀ line ∈ lines, line.IsClean) :
    withoutEscapes false (String.join (lines.map (Line.shown true))).toList =
      (String.join (lines.map (Line.shown false))).toList := by
  induction lines with
  | nil => rfl
  | cons line lines induction =>
      obtain ⟨first, others⟩ := List.forall_mem_cons.1 clean
      have after := induction others
      simp only [String.toList_join, List.map_cons, List.flatMap_cons] at after ⊢
      rw [line.withoutEscapes_shown first, after, line.toList_shown_false, List.append_assoc,
        List.singleton_append]

theorem escape_notMem_lines {lines : List Line} (clean : ∀ line ∈ lines, line.IsClean) :
    '\x1b' ∉ (String.join (lines.map (Line.shown false))).toList := by
  rw [String.toList_join, List.flatMap_map, List.mem_flatMap]
  rintro ⟨line, member, inside⟩
  rw [line.toList_shown_false, List.mem_append, List.mem_flatMap] at inside
  rcases inside with ⟨piece, among, isIn⟩ | isEnd
  · exact clean line member piece among isIn
  · simp at isEnd

theorem page_clean (topic : Option Subcommand) : ∀ line ∈ (page topic).lines, line.IsClean := by
  cases topic with
  | none => decide +kernel
  | some subcommand => cases subcommand <;> decide +kernel

/-- The help text in colours is the one without them, but for escape sequences. -/
theorem withoutEscapes_text (topic : Option Subcommand) :
    withoutEscapes false (text topic true).toList = (text topic).toList :=
  withoutEscapes_lines (page_clean topic)

/-- Every help text has a heading, which is where colours show. -/
theorem text_coloured_ne (topic : Option Subcommand) : text topic true ≠ text topic := by
  intro same
  have absent : '\x1b' ∉ (text topic).toList := escape_notMem_lines (page_clean topic)
  apply absent
  rw [← same, text, Page.lines, String.toList_join]
  simp [Line.shown, Piece.shown, Piece.heading, Look.code]

end Help
end Stencil
