import Stencil.Proofs.Template.Reading
import Stencil.Proofs.Text.Slices

/-!
# Reading by slices

A reader of templates need not hold the characters of a piece.  It can keep the positions between
which the piece stands and take the slice of the text there.  The positions that are kept agree with
the text after every step, so that each slice that is taken exists, and reading by slices ends as
reading does that holds characters.
-/

namespace Stencil
namespace Template

open Text

/-- What comes of reading by slices: a result, an offence, or nothing at all when a slice is taken
that does not exist. -/
abbrev Slicing := ExceptT SyntaxError Option

/-- What a reader keeps that takes its pieces out of the text. -/
structure Cursors where
  /-- Where the literal text that is being read, or that ends at the open brace, began. -/
  literalStart : Nat
  /-- The position of the open brace, inside a placeholder. -/
  opened : Option Nat
  /-- The pieces that are complete, the last one first. -/
  segments : List Segment

namespace Cursors

/-- Nothing has been read. -/
def start : Cursors where
  literalStart := 0
  opened := none
  segments := []

/-- The complete pieces once the literal text before a position has ended. -/
def endLiteral (text : String) (cursors : Cursors) (position : Nat) : Option (List Segment) := do
  if cursors.literalStart < position then
    let literal ← slice? text cursors.literalStart position
    return .literal literal :: cursors.segments
  else
    return cursors.segments

/-- Reads an opening brace. -/
def openBrace (text : String) (cursors : Cursors) (position : Nat) : Slicing Cursors := do
  match cursors.opened with
  | some _ => throw ⟨position, .nestedOpenBrace⟩
  | none =>
    let segments ← cursors.endLiteral text position
    return {
      literalStart := cursors.literalStart
      opened := some position
      segments := segments }

/-- Reads a closing brace. -/
def closeBrace (text : String) (cursors : Cursors) (position : Nat) : Slicing Cursors := do
  match cursors.opened with
  | none => throw ⟨position, .unmatchedCloseBrace⟩
  | some start =>
    let name ← slice? text (start + 1) position
    if name.toList.all isBlank then
      throw ⟨start, .emptyPlaceholder⟩
    else return {
      literalStart := position + 1
      opened := none
      segments := .placeholder name :: cursors.segments }

/-- Reads the character at a position. -/
def step (text : String) (cursors : Cursors) (place : Nat × Char) : Slicing Cursors :=
  if place.2 = '{' then cursors.openBrace text place.1
  else if place.2 = '}' then cursors.closeBrace text place.1
  else return cursors

/-- The template that has been read, when the text ends here. -/
def finish (text : String) (cursors : Cursors) : Slicing Template := do
  match cursors.opened with
  | some start => throw ⟨start, .unclosedPlaceholder⟩
  | none =>
    let segments ← cursors.endLiteral text text.utf8ByteSize
    return segments.reverse

end Cursors

/-- Reads a text as a template by slices, or finds its first offence. -/
def parseBySlices (text : String) : Option (Except SyntaxError Template) :=
  ExceptT.run do
    let cursors ← (placed 0 text.toList).foldlM (Cursors.step text) Cursors.start
    cursors.finish text

namespace Reading

variable {text : String} {past stretch : List Char} {reading : Reading}

/-- What is kept of a state when no characters are held. -/
def cursors (reading : Reading) : Cursors where
  literalStart := reading.literalStart
  opened := reading.opened
  segments := reading.segments

/-! ## What a state says about the text -/

/-- Whether a state agrees with a text that has been read as far as its position.  The complete
pieces account for all that stands before the open brace, or else before the literal text. -/
structure Accounts (text : String) (reading : Reading) : Prop where
  /-- The literal text began no later than at the position. -/
  literalStart_le : reading.literalStart ≤ reading.position
  /-- The literal text began between two characters. -/
  literalStart_isBoundary : IsBoundary text reading.literalStart
  /-- The position lies between two characters. -/
  position_isBoundary : IsBoundary text reading.position
  /-- Outside every placeholder no brace stands in the literal text. -/
  outside : reading.opened = none →
    slice? text reading.literalStart reading.position = some reading.heldText ∧
      BraceFree reading.heldText.toList ∧
      slice? text 0 reading.literalStart = some (source reading.segments.reverse)
  /-- Inside a placeholder no brace stands behind the open one. -/
  inside : ∀ start, reading.opened = some start →
    reading.literalStart ≤ start ∧ start < reading.position ∧
      slice? text start (start + 1) = some "\x7b" ∧
      slice? text (start + 1) reading.position = some reading.heldText ∧
      BraceFree reading.heldText.toList ∧
      slice? text 0 start = some (source reading.segments.reverse)

/-- The text of complete pieces is the slice before the place where they end. -/
theorem slice?_source {before : Template} (front : before.characters <+: text.toList) :
    slice? text 0 (byteLength before.characters) = some before.source := by
  have slice : slice? text (byteLength []) (byteLength ([] ++ before.characters)) =
      some (String.ofList before.characters) := slice?_byteLength front
  rwa [characters, String.ofList_toList] at slice

theorem Reached.position_eq (reached : Reached past reading) :
    reading.position = byteLength past := by
  cases reached with
  | outside before held canonical closed plain past_eq reading_eq =>
      rw [past_eq, reading_eq]
      rfl
  | inside before front held canonical began plain past_eq reading_eq =>
      rw [past_eq, reading_eq]
      rfl

/-- A state that is reached agrees with every text that begins with what has been read. -/
theorem Reached.accounts (reached : Reached past reading) (begins : past <+: text.toList) :
    reading.Accounts text := by
  cases reached with
  | outside before held canonical closed plain past_eq reading_eq =>
      subst past_eq reading_eq
      have front : before.characters <+: before.characters ++ held := List.prefix_append _ _
      have written : before.characters <+: text.toList := front.trans begins
      refine {
        literalStart_le := byteLength_le front
        literalStart_isBoundary := isBoundary_byteLength written
        position_isBoundary := isBoundary_byteLength begins
        outside := fun _ => ⟨?_, ?_, ?_⟩
        inside := ?_ }
      · simpa [Reading.outside, heldText] using slice?_byteLength begins
      · simpa [Reading.outside, heldText] using plain
      · simpa [Reading.outside] using slice?_source written
      · intro start opened
        cases opened
  | inside before front held canonical began plain past_eq reading_eq =>
      subst past_eq reading_eq
      -- The brace is one byte, so that the name begins at the next position.
      have size : '{'.utf8Size = 1 := rfl
      have through : before.characters ++ ['{'] ++ held <+: text.toList := by simpa using begins
      have brace : before.characters ++ ['{'] <+: text.toList :=
        (List.prefix_append _ _).trans through
      have written : before.characters <+: text.toList := (List.prefix_append _ _).trans begins
      refine {
        literalStart_le := byteLength_le (began.trans (List.prefix_append _ _))
        literalStart_isBoundary := isBoundary_byteLength (began.trans written)
        position_isBoundary := isBoundary_byteLength begins
        outside := ?_
        inside := ?_ }
      · intro opened
        cases opened
      · intro start opened
        obtain rfl : byteLength before.characters = start := Option.some.inj opened
        refine ⟨byteLength_le began, ?_, ?_, ?_, ?_, ?_⟩
        · change _ < byteLength (before.characters ++ '{' :: held)
          rw [byteLength_append]
          exact Nat.lt_add_of_pos_right (byteLength_pos (List.cons_ne_nil _ _))
        · simpa [size] using slice?_byteLength brace
        · simpa [Reading.inside, heldText, size, Nat.add_assoc] using slice?_byteLength through
        · simpa [Reading.inside, heldText] using plain
        · simpa [Reading.inside] using slice?_source written

/-! ## Steps by slices -/

namespace Accounts

/-- Literal text ends with the same pieces whether it is held or sliced. -/
theorem endLiteral_cursors (accounts : reading.Accounts text) (outside : reading.opened = none) :
    reading.cursors.endLiteral text reading.position = some reading.endLiteral := by
  obtain ⟨slice, -, -⟩ := accounts.outside outside
  by_cases nonempty : reading.literalStart < reading.position
  · simp [Cursors.endLiteral, Reading.endLiteral, cursors, nonempty, slice]
  · simp [Cursors.endLiteral, Reading.endLiteral, cursors, nonempty]

theorem openBrace_cursors (accounts : reading.Accounts text) :
    reading.cursors.openBrace text reading.position = some (reading.openBrace.map cursors) := by
  cases opened : reading.opened with
  | some start =>
      simp only [Cursors.openBrace, openBrace, cursors, opened]
      rfl
  | none =>
      have ended := accounts.endLiteral_cursors opened
      simp only [Cursors.openBrace, openBrace, cursors, opened] at ended ⊢
      rw [ended]
      rfl

theorem closeBrace_cursors (accounts : reading.Accounts text) :
    reading.cursors.closeBrace text reading.position = some (reading.closeBrace.map cursors) := by
  cases opened : reading.opened with
  | none =>
      simp only [Cursors.closeBrace, closeBrace, cursors, opened]
      rfl
  | some start =>
      obtain ⟨-, -, -, slice, -, -⟩ := accounts.inside start opened
      have blank : reading.heldText.toList.all isBlank = reading.held.all isBlank := by
        simp [heldText]
      simp only [Cursors.closeBrace, closeBrace, cursors, opened, slice, ← blank]
      change (if reading.heldText.toList.all isBlank = true then _ else _) = _
      split <;> rfl

/-- A step by slices is the step that holds characters, without the characters. -/
theorem step_cursors (accounts : reading.Accounts text) (character : Char) :
    reading.cursors.step text (reading.position, character) =
      some ((reading.step character).map cursors) := by
  by_cases opening : character = '{'
  · subst opening
    exact accounts.openBrace_cursors
  by_cases closing : character = '}'
  · subst closing
    exact accounts.closeBrace_cursors
  simp only [Cursors.step, step, opening, closing, if_false]
  rfl

theorem finish_cursors (accounts : reading.Accounts text)
    (ends : reading.position = text.utf8ByteSize) :
    reading.cursors.finish text = some reading.finish := by
  cases opened : reading.opened with
  | some start =>
      simp only [Cursors.finish, finish, cursors, opened]
      rfl
  | none =>
      have ended := accounts.endLiteral_cursors opened
      simp only [Cursors.finish, finish, cursors, opened, ends] at ended ⊢
      rw [ended]
      rfl

end Accounts

/-- Behind a reached state text is read by slices as it is read with characters held. -/
theorem Reached.foldlM_cursors (reached : Reached past reading)
    (begins : past ++ stretch <+: text.toList) :
    (placed (byteLength past) stretch).foldlM (Cursors.step text) reading.cursors =
      some ((stretch.foldlM Reading.step reading).map cursors) := by
  induction stretch generalizing past reading with
  | nil => rfl
  | cons character stretch induction =>
      have front : past <+: text.toList := (List.prefix_append _ _).trans begins
      have stepped := (reached.accounts front).step_cursors character
      rw [reached.position_eq] at stepped
      rw [placed, List.foldlM_cons, stepped]
      cases next : reading.step character with
      | error error =>
          rw [foldlM_step_of_error next]
          rfl
      | ok after =>
          have rest := induction (reached.step next) (by simpa using begins)
          rw [foldlM_step_of_ok next, ← rest, byteLength_append]
          rfl

theorem foldlM_cursors_start (begins : past <+: text.toList) :
    (placed 0 past).foldlM (Cursors.step text) Cursors.start =
      some ((past.foldlM Reading.step start).map cursors) :=
  reached_start.foldlM_cursors begins

end Reading

/-! ## Whole texts -/

theorem parseBySlices_eq (text : String) : parseBySlices text = some (parse text) := by
  have whole : text.toList <+: text.toList := List.prefix_refl _
  rw [parseBySlices, Reading.foldlM_cursors_start whole, parse]
  cases read : text.toList.foldlM Reading.step Reading.start with
  | error error => rfl
  | ok reading =>
      have reached := Reading.reached_start.foldlM_step read
      have ends : reading.position = text.utf8ByteSize := by
        rw [reached.position_eq, List.nil_append, byteLength_toList]
      exact (reached.accounts whole).finish_cursors ends

/-- Wherever the reader stands in a text, its positions and its complete pieces agree with the text,
and each slice that could be taken there exists.  So reading by slices goes through the same
positions and pieces, and it always ends, with the same template or the same offence. -/
theorem positions_account_for_every_byte (text : String) :
    (∀ past, past <+: text.toList → ∀ reading,
      past.foldlM Reading.step Reading.start = .ok reading →
        reading.position = byteLength past ∧ reading.Accounts text ∧
          (slice? text reading.literalStart reading.position).isSome ∧
          (slice? text reading.literalStart text.utf8ByteSize).isSome ∧
          (placed 0 past).foldlM (Cursors.step text) Cursors.start = some (.ok reading.cursors)) ∧
      parseBySlices text = some (parse text) := by
  refine ⟨fun past begins reading read => ?_, parseBySlices_eq text⟩
  have reached : Reading.Reached past reading := Reading.reached_start.foldlM_step read
  have accounts : reading.Accounts text := reached.accounts begins
  have before_end : reading.literalStart ≤ text.utf8ByteSize := by
    calc
      reading.literalStart ≤ reading.position := accounts.literalStart_le
      _ = byteLength past := reached.position_eq
      _ ≤ byteLength text.toList := byteLength_le begins
      _ = text.utf8ByteSize := byteLength_toList text
  refine ⟨reached.position_eq, accounts, ?_, ?_, ?_⟩
  · exact isSome_slice?_iff.2
      ⟨accounts.literalStart_isBoundary, accounts.position_isBoundary, accounts.literalStart_le⟩
  · exact isSome_slice?_iff.2
      ⟨accounts.literalStart_isBoundary, isBoundary_utf8ByteSize text, before_end⟩
  · rw [Reading.foldlM_cursors_start begins, read]
    rfl

/-- Behind the open brace the reader stands inside a name that goes on with a wide character. -/
theorem positions_account_for_every_byte_inside_placeholder :
    ∃ reading : Reading,
      "é{a}→\x7bx".toList <+: "é{a}→\x7bx✓\x7d".toList ∧
      "é{a}→\x7bx".toList.foldlM Reading.step Reading.start = .ok reading ∧
      reading.literalStart = 5 ∧ reading.opened = some 8 ∧ reading.position = 10 ∧
      slice? "é{a}→\x7bx✓\x7d" 8 9 = some "\x7b" ∧
      slice? "é{a}→\x7bx✓\x7d" 9 10 = some "x" ∧
      slice? "é{a}→\x7bx✓\x7d" 0 8 = some "é{a}→" ∧
      (slice? "é{a}→\x7bx✓\x7d" 5 14).isSome ∧
      parseBySlices "é{a}→\x7bx✓\x7d" =
        some (.ok [.literal "é", .placeholder "a", .literal "→", .placeholder "x✓"]) := by
  let reading : Reading := {
    position := 10
    literalStart := 5
    opened := some 8
    held := ['x']
    segments := [.literal "→", .placeholder "a", .literal "é"] }
  have begins : "é{a}→\x7bx".toList <+: "é{a}→\x7bx✓\x7d".toList := by decide
  have read : "é{a}→\x7bx".toList.foldlM Reading.step Reading.start = .ok reading := rfl
  have parsed : parse "é{a}→\x7bx✓\x7d" =
      .ok [.literal "é", .placeholder "a", .literal "→", .placeholder "x✓"] := by decide
  obtain ⟨states, ends⟩ := positions_account_for_every_byte "é{a}→\x7bx✓\x7d"
  obtain ⟨-, accounts, -, rest, -⟩ := states _ begins reading read
  obtain ⟨-, -, brace, name, -, written⟩ := accounts.inside 8 rfl
  exact ⟨reading, begins, read, rfl, rfl, rfl, brace, name, written, rest,
    ends.trans (congrArg some parsed)⟩

end Template
end Stencil
