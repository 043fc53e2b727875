/-!
# Templates

A template is literal text in which placeholders stand, each a variable name between braces.  Braces
never nest and cannot be escaped.
-/

namespace Stencil

/-- A piece of a template. -/
inductive Segment where
  /-- Text that is copied to the output. -/
  | literal (text : String)
  /-- The variable name between two braces. -/
  | placeholder (name : String)
deriving DecidableEq, Repr

/-- A template, piece by piece. -/
abbrev Template := List Segment

namespace Segment

/-- The text that stands for the piece in a template. -/
def source : Segment → String
  | literal text => text
  | placeholder name => "\x7b" ++ name ++ "\x7d"

/-- Whether the piece is literal text. -/
def isLiteral : Segment → Bool
  | literal _ => true
  | placeholder _ => false

end Segment

namespace Template

/-- The text of a template. -/
def source (template : Template) : String :=
  String.join (template.map Segment.source)

/-- The names in the placeholders of a template, in order. -/
def placeholders (template : Template) : List String :=
  template.filterMap fun
    | .literal _ => none
    | .placeholder name => some name

@[simp]
theorem placeholders_nil : placeholders [] = [] := rfl

@[simp]
theorem placeholders_cons_literal (text : String) (template : Template) :
    placeholders (.literal text :: template) = template.placeholders := rfl

@[simp]
theorem placeholders_cons_placeholder (name : String) (template : Template) :
    placeholders (.placeholder name :: template) = name :: template.placeholders := rfl

theorem mem_placeholders_iff {template : Template} {name : String} :
    name ∈ template.placeholders ↔ .placeholder name ∈ template := by
  induction template with
  | nil => simp
  | cons segment template induction => cases segment <;> simp [induction]

end Template
end Stencil
