import Mathlib.Algebra.Ring.Nat
import Stencil.Proofs.Template.Names
import Stencil.Proofs.Template.Rendering
import Stencil.Proofs.Template.Validity

/-!
# Braces in rendered text

The braces of a template are gone once it is rendered, so every brace in the output stands in a
value.  A text without braces is a template that renders to itself.
-/

namespace Stencil
namespace Template

open Text

/-! ## Counting braces -/

theorem braceFree_iff_count {text : List Char} :
    BraceFree text ↔ ∀ brace ∈ ['{', '}'], text.count brace = 0 := by
  simp [BraceFree, List.count_eq_zero]

/-- The values of the names in a template, one for each placeholder. -/
theorem exists_values_of_firstUnbound {bindings : Bindings} {template : Template}
    (bound : template.firstUnbound bindings = none) :
    ∃ values : List Json, template.placeholders.map bindings.get? = values.map some := by
  induction template with
  | nil => exact ⟨[], rfl⟩
  | cons segment template induction =>
      cases segment with
      | literal text => exact induction bound
      | placeholder name =>
          rw [firstUnbound_cons_placeholder] at bound
          cases found : bindings.get? name with
          | none => simp [found] at bound
          | some value =>
              obtain ⟨values, same⟩ := induction (by simpa [found] using bound)
              exact ⟨value :: values, by simp [found, same]⟩

/-- Each brace of the output stands in a value. -/
theorem count_filled {bindings : Bindings} {template : Template} {values : List Json} {brace : Char}
    (isBrace : brace ∈ ['{', '}']) (segments : ∀ segment ∈ template, segment.Canonical)
    (bound : template.placeholders.map bindings.get? = values.map some) :
    (template.filled bindings).toList.count brace =
      (values.map fun value => value.rendered.toList.count brace).sum := by
  induction template generalizing values with
  | nil =>
      obtain rfl : values = [] := by simpa using bound.symm
      simp
  | cons segment template induction =>
      obtain ⟨piece, others⟩ := List.forall_mem_cons.1 segments
      cases segment with
      | literal text =>
          have plain : text.toList.count brace = 0 := braceFree_iff_count.1 piece.2 brace isBrace
          simp [Segment.filled, plain, induction others bound]
      | placeholder name =>
          -- The placeholder takes the first of the values with it.
          cases values with
          | nil => simp at bound
          | cons value values =>
            obtain ⟨found, rest⟩ := List.cons.inj bound
            simp [Segment.filled, found, induction others rest]

/-! ## Texts without braces -/

theorem parse_of_braceFree {text : String} (plain : BraceFree text.toList) :
    parse text = .ok (appendText [] text.toList) := by
  refine parse_eq_ok_iff.2 ⟨Canonical.nil.appendText endsClosed_nil plain, ?_⟩
  refine String.toList_inj.1 ?_
  exact (characters_appendText [] text.toList).trans (by simp)

@[simp]
theorem placeholders_appendText (text : List Char) : placeholders (appendText [] text) = [] := by
  cases text <;> rfl

theorem filled_appendText (bindings : Bindings) (text : List Char) :
    filled bindings (appendText [] text) = String.ofList text := by
  cases text with
  | nil => simp
  | cons character text => simp [appendText, Segment.filled]

/-- A text without braces renders to itself, whatever is bound. -/
theorem substitute_of_braceFree {text : String} (plain : BraceFree text.toList)
    (bindings : Bindings) : substitute text bindings = .ok text := by
  have bound : firstUnbound bindings (appendText [] text.toList) = none := by
    simp [firstUnbound]
  rw [substitute_of_ok (parse_of_braceFree plain), bound, filled_appendText, String.ofList_toList]

theorem names_of_braceFree {text : String} (plain : BraceFree text.toList) : names text = [] := by
  rw [names, spans_of_parse (parse_of_braceFree plain), placeholders_appendText, List.foldr_nil]

/-! ## Braces in the output -/

/-- The braces of an output are those of the values in it, one value for each placeholder.  An
output without braces is a template without names, and renders to itself. -/
theorem braces_come_from_values {text output : String} {bindings : Bindings}
    (rendered : substitute text bindings = .ok output) :
    (∃ (template : Template) (values : List Json), parse text = .ok template ∧
      template.placeholders.map bindings.get? = values.map some ∧
      (∀ brace ∈ ['{', '}'], output.toList.count brace =
        (values.map fun value => value.rendered.toList.count brace).sum) ∧
      (BraceFree output.toList ↔ ∀ value ∈ values, BraceFree value.rendered.toList)) ∧
    (BraceFree output.toList → isValid output = true ∧ names output = [] ∧
      ∀ others, substitute output others = .ok output) := by
  constructor
  · obtain ⟨template, read, bound, rfl⟩ := substitute_eq_ok_iff.1 rendered
    obtain ⟨canonical, -⟩ := parse_eq_ok_iff.1 read
    obtain ⟨values, found⟩ := exists_values_of_firstUnbound bound
    have count {brace : Char} (isBrace : brace ∈ ['{', '}']) :=
      count_filled isBrace canonical.segments found
    refine ⟨template, values, read, found, fun brace => count, ?_⟩
    simp only [braceFree_iff_count]
    constructor
    · intro none value member brace isBrace
      have zero := (count isBrace).symm.trans (none brace isBrace)
      exact List.sum_eq_zero_iff_forall_eq_nat.1 zero _ (List.mem_map.2 ⟨value, member, rfl⟩)
    · intro none brace isBrace
      rw [count isBrace, List.sum_eq_zero_iff_forall_eq_nat]
      intro number member
      obtain ⟨value, inside, rfl⟩ := List.mem_map.1 member
      exact none value inside brace isBrace
  · intro plain
    exact ⟨isValid_of_ok (parse_of_braceFree plain), names_of_braceFree plain,
      substitute_of_braceFree plain⟩

/-- A list and a text without braces leave none, and so the output is a template. -/
theorem braces_come_from_values_listed :
    substitute "{who}: {tags}{who}"
        (Dictionary.ofPairs [("who", .string "Ada"), ("tags", .array [.integer 1, .null])]) =
      .ok "Ada: [1,null]Ada" ∧
    BraceFree "Ada: [1,null]Ada".toList ∧ isValid "Ada: [1,null]Ada" = true ∧
    names "Ada: [1,null]Ada" = [] ∧
    ∀ others, substitute "Ada: [1,null]Ada" others = .ok "Ada: [1,null]Ada" := by
  have rendered : substitute "{who}: {tags}{who}"
      (Dictionary.ofPairs [("who", .string "Ada"), ("tags", .array [.integer 1, .null])]) =
        .ok "Ada: [1,null]Ada" := by
    decide
  have plain : BraceFree "Ada: [1,null]Ada".toList := by decide
  exact ⟨rendered, plain, (braces_come_from_values rendered).2 plain⟩

example : substitute "<{a}>" (Dictionary.ofPairs [("a", .object [("k", .string "\x7d")])]) =
    .ok "<\x7b\"k\":\"\x7d\"\x7d>" := by
  decide

end Template
end Stencil
