import Mathlib.Data.List.Find
import Stencil.Proofs.Template.Names
import Stencil.Proofs.Template.Rendering

/-!
# What substitution reads

Substitution looks at the values of the names that the scan of the text lists, and at nothing else.
Of such a value only its text counts, and of a missing one that it is missing.
-/

namespace Stencil
namespace Template

/-- Whether two values are missing or have the same text. -/
def SameText : Option Json → Option Json → Prop
  | none, none => True
  | some first, some second => first.rendered = second.rendered
  | _, _ => False

theorem sameText_iff {first second : Option Json} :
    SameText first second ↔ first.map Json.rendered = second.map Json.rendered := by
  cases first <;> cases second <;> simp [SameText]

/-- The first unbound name depends on which of the names in the placeholders are bound. -/
theorem firstUnbound_congr {template : Template} {first second : Bindings}
    (agree : ∀ name ∈ template.placeholders, SameText (first.get? name) (second.get? name)) :
    template.firstUnbound first = template.firstUnbound second := by
  apply List.find?_congr
  intro name inside
  have texts := sameText_iff.1 (agree name inside)
  rw [← Option.isNone_map, texts, Option.isNone_map]

/-- The filled template depends on the texts of the names in the placeholders. -/
theorem filled_congr {template : Template} {first second : Bindings}
    (agree : ∀ name ∈ template.placeholders, SameText (first.get? name) (second.get? name)) :
    template.filled first = template.filled second := by
  induction template with
  | nil => simp
  | cons segment template induction =>
      cases segment with
      | literal text =>
          rw [filled_cons, filled_cons, induction agree]
          rfl
      | placeholder name =>
          rw [placeholders_cons_placeholder] at agree
          obtain ⟨here, others⟩ := List.forall_mem_cons.1 agree
          have texts := sameText_iff.1 here
          rw [filled_cons, filled_cons, induction others, Segment.filled, Segment.filled, texts]

/-- Bindings that agree on the names that the scan lists lead to the same end. -/
theorem substitute_congr {text : String} {first second : Bindings}
    (agree : ∀ name ∈ names text, SameText (first.get? name) (second.get? name)) :
    substitute text first = substitute text second := by
  cases read : parse text with
  | error error => rw [substitute_of_error read, substitute_of_error read]
  | ok template =>
      have inside : ∀ name ∈ template.placeholders,
          SameText (first.get? name) (second.get? name) := by
        intro name member
        exact agree name ((mem_names_of_parse read).2 member)
      rw [substitute_of_ok read, substitute_of_ok read, firstUnbound_congr inside,
        filled_congr inside]

/-- Substitution reads the names that the scan of the text lists.  Where two bindings give them
values of the same text, or none, both lead to the same output or the same failure, and what is
bound to other names makes no difference. -/
theorem only_scanned_names_are_read {text : String} {first second : Bindings}
    (agree : ∀ name ∈ names text, (name ∉ first.names ∧ name ∉ second.names) ∨
      ∃ value other, first.get? name = some value ∧ second.get? name = some other ∧
        value.rendered = other.rendered) :
    substitute text first = substitute text second ∧
      ∀ name ∉ names text, ∀ value,
        substitute text (first.insert name value) = substitute text second := by
  have texts : ∀ name ∈ names text, SameText (first.get? name) (second.get? name) := by
    intro name mentioned
    rcases agree name mentioned with ⟨notFirst, notSecond⟩ | ⟨value, other, bound, also, same⟩
    · rw [Dictionary.get?_eq_none_iff.2 notFirst, Dictionary.get?_eq_none_iff.2 notSecond]
      trivial
    · rw [bound, also]
      exact same
  constructor
  · exact substitute_congr texts
  · intro name unmentioned value
    apply substitute_congr
    intro other mentioned
    have different : other ≠ name := fun same => unmentioned (same ▸ mentioned)
    rw [Dictionary.get?_insert, if_neg different]
    exact texts other mentioned

/-- The number and the string have the same text, and `gone` is missing on both sides. -/
theorem only_scanned_names_are_read_alike :
    let number : Bindings := Dictionary.ofPairs [("n", .integer 42)]
    let string : Bindings := Dictionary.ofPairs [("n", .string "42"), ("other", .boolean true)]
    names "{n}: {gone}" = ["gone", "n"] ∧
      ("gone" ∉ number.names ∧ "gone" ∉ string.names) ∧
      (Json.integer 42).rendered = (Json.string "42").rendered ∧
      substitute "{n}: {gone}" number = substitute "{n}: {gone}" string ∧
      substitute "{n}: {gone}" (number.insert "also" .null) = substitute "{n}: {gone}" string := by
  intro number string
  have listed : names "{n}: {gone}" = ["gone", "n"] := by decide
  have missing : "gone" ∉ number.names ∧ "gone" ∉ string.names := by decide
  have alike : (Json.integer 42).rendered = (Json.string "42").rendered := by decide
  have agree : ∀ name ∈ names "{n}: {gone}", (name ∉ number.names ∧ name ∉ string.names) ∨
      ∃ value other, number.get? name = some value ∧ string.get? name = some other ∧
        value.rendered = other.rendered := by
    rw [listed]
    intro name member
    rcases List.mem_cons.1 member with rfl | member
    · exact .inl missing
    · obtain rfl := List.mem_singleton.1 member
      exact .inr ⟨.integer 42, .string "42", rfl, rfl, alike⟩
  obtain ⟨same, outside⟩ := only_scanned_names_are_read agree
  exact ⟨listed, missing, alike, same, outside "also" (by decide) .null⟩

end Template
end Stencil
