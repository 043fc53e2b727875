import Mathlib.Data.List.Chain
import Stencil.Template.Basic
import Stencil.Text.Blank

/-!
# Canonical templates

A template is canonical when its text can be cut into pieces in no other way: literal texts are not
empty, hold no brace and do not touch each other, and names hold no brace and are not blank.
-/

namespace Stencil

namespace Text

/-- Whether no brace occurs in a text. -/
def BraceFree (text : List Char) : Prop :=
  '{' ∉ text ∧ '}' ∉ text

instance : DecidablePred BraceFree := fun text =>
  inferInstanceAs (Decidable ('{' ∉ text ∧ '}' ∉ text))

@[simp]
theorem braceFree_nil : BraceFree [] := by
  simp [BraceFree]

theorem braceFree_cons_iff {character : Char} {text : List Char} :
    BraceFree (character :: text) ↔ character ≠ '{' ∧ character ≠ '}' ∧ BraceFree text := by
  simp only [BraceFree, List.mem_cons, not_or, ne_comm (a := character), ne_eq]
  tauto

theorem braceFree_append_iff {before after : List Char} :
    BraceFree (before ++ after) ↔ BraceFree before ∧ BraceFree after := by
  simp only [BraceFree, List.mem_append, not_or]
  tauto

end Text

open Text

namespace Segment

@[simp]
theorem source_literal (text : String) : (literal text).source = text := rfl

@[simp]
theorem toList_source_placeholder (name : String) :
    (placeholder name).source.toList = '{' :: (name.toList ++ ['}']) := by
  simp [source]

/-- Whether the piece may stand in a canonical template. -/
def Canonical : Segment → Prop
  | literal text => text ≠ "" ∧ BraceFree text.toList
  | placeholder name => BraceFree name.toList ∧ ∃ character ∈ name.toList, isBlank character = false

instance : DecidablePred Canonical
  | literal text => inferInstanceAs (Decidable (text ≠ "" ∧ BraceFree text.toList))
  | placeholder name =>
    decidable_of_iff (BraceFree name.toList ∧ name.toList.all isBlank = false)
      (by simp [Canonical])

end Segment

namespace Template

/-- The characters of the text of a template. -/
def characters (template : Template) : List Char :=
  template.source.toList

@[simp]
theorem characters_nil : characters [] = [] := by
  simp [characters, source]

@[simp]
theorem characters_cons (segment : Segment) (template : Template) :
    characters (segment :: template) = segment.source.toList ++ template.characters := by
  simp [characters, source]

@[simp]
theorem characters_append (before after : Template) :
    characters (before ++ after) = before.characters ++ after.characters := by
  simp [characters, source]

/-- Whether a template is canonical. -/
structure Canonical (template : Template) : Prop where
  /-- No piece is empty or blank, and none holds a brace. -/
  segments : ∀ segment ∈ template, segment.Canonical
  /-- No two literal texts touch. -/
  separate : template.IsChain fun first second =>
    first.isLiteral = false ∨ second.isLiteral = false

instance : DecidablePred Canonical := fun template =>
  decidable_of_iff
    ((∀ segment ∈ template, segment.Canonical) ∧
      template.IsChain fun first second => first.isLiteral = false ∨ second.isLiteral = false)
    ⟨fun both => ⟨both.1, both.2⟩, fun canonical => ⟨canonical.segments, canonical.separate⟩⟩

/-- Whether the last piece of a template, if there is one, is a placeholder. -/
def EndsClosed (template : Template) : Prop :=
  ∀ last ∈ template.getLast?, last.isLiteral = false

@[simp]
theorem endsClosed_nil : EndsClosed [] := by
  simp [EndsClosed]

@[simp]
theorem endsClosed_append_placeholder (template : Template) (name : String) :
    EndsClosed (template ++ [.placeholder name]) := by
  simp [EndsClosed, Segment.isLiteral]

/-- A template followed by literal text, if there is any. -/
def appendText (template : Template) : List Char → Template
  | [] => template
  | character :: text => template ++ [.literal (String.ofList (character :: text))]

@[simp]
theorem appendText_nil (template : Template) : template.appendText [] = template := rfl

theorem appendText_of_ne_nil (template : Template) {text : List Char} (nonempty : text ≠ []) :
    template.appendText text = template ++ [.literal (String.ofList text)] := by
  cases text with
  | nil => exact absurd rfl nonempty
  | cons character text => rfl

@[simp]
theorem characters_appendText (template : Template) (text : List Char) :
    (template.appendText text).characters = template.characters ++ text := by
  cases text with
  | nil => simp
  | cons character text => simp [appendText]

namespace Canonical

@[simp]
theorem nil : Canonical [] where
  segments := by simp
  separate := List.isChain_nil

theorem append_iff {before after : Template} :
    Canonical (before ++ after) ↔ before.Canonical ∧ after.Canonical ∧
      ∀ last ∈ before.getLast?, ∀ first ∈ after.head?,
        last.isLiteral = false ∨ first.isLiteral = false := by
  constructor
  · rintro ⟨segments, separate⟩
    obtain ⟨front, back, seam⟩ := List.isChain_append.1 separate
    exact ⟨⟨fun segment member => segments segment (List.mem_append_left _ member), front⟩,
      ⟨fun segment member => segments segment (List.mem_append_right _ member), back⟩, seam⟩
  · rintro ⟨front, back, seam⟩
    refine ⟨fun segment member => ?_, List.isChain_append.2 ⟨front.separate, back.separate, seam⟩⟩
    rcases List.mem_append.1 member with inside | inside
    · exact front.segments segment inside
    · exact back.segments segment inside

theorem singleton_iff {segment : Segment} : Canonical [segment] ↔ segment.Canonical := by
  constructor
  · intro canonical
    exact canonical.segments segment List.mem_cons_self
  · intro piece
    exact ⟨by simpa using piece, List.isChain_singleton segment⟩

/-- Text without a brace may follow a placeholder. -/
theorem appendText {template : Template} (canonical : template.Canonical)
    (closed : template.EndsClosed) {text : List Char} (plain : BraceFree text) :
    (template.appendText text).Canonical := by
  by_cases empty : text = []
  · rw [empty]
    exact canonical
  · rw [appendText_of_ne_nil template empty]
    refine append_iff.2 ⟨canonical, singleton_iff.2 ⟨?_, ?_⟩, ?_⟩
    · simpa using empty
    · simpa using plain
    · intro last member _ _
      exact .inl (closed last member)

/-- A placeholder may follow any template. -/
theorem appendPlaceholder {template : Template} (canonical : template.Canonical)
    {name : List Char} (plain : BraceFree name) (named : name.all isBlank = false) :
    Canonical (template ++ [.placeholder (String.ofList name)]) := by
  refine append_iff.2 ⟨canonical, singleton_iff.2 ⟨by simpa using plain, ?_⟩, ?_⟩
  · simpa using named
  · intro last _ first member
    exact .inr (by simp at member; simp [← member, Segment.isLiteral])

end Canonical

end Template
end Stencil
