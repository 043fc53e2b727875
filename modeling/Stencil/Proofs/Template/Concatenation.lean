import Stencil.Proofs.Template.Names
import Stencil.Proofs.Template.Offences
import Stencil.Proofs.Template.Rendering
import Stencil.Proofs.Template.Validity

/-!
# Texts behind templates

Behind a template reading starts afresh.  A text that follows one is read as if it stood alone,
except that literal texts that touch become one piece and that positions count from the start of the
whole.  So outcomes, names and validity of the whole are put together from those of the two parts.
-/

namespace Stencil
namespace Template

open Text

/-! ## Joined templates -/

/-- A template with a piece before it, where literal texts that touch become one. -/
def attach : Segment → Template → Template
  | .literal front, .literal back :: template => .literal (front ++ back) :: template
  | segment, template => segment :: template

/-- Two templates one after the other, where literal texts that touch become one. -/
def joined (before after : Template) : Template :=
  before.foldr attach after

@[simp]
theorem joined_nil (after : Template) : joined [] after = after := rfl

@[simp]
theorem joined_cons (segment : Segment) (before after : Template) :
    joined (segment :: before) after = attach segment (joined before after) := rfl

/-- Attaching either merges two literal texts or puts the piece in front. -/
theorem attach_cases (segment : Segment) (template : Template) :
    (∃ front back rest, segment = .literal front ∧ template = .literal back :: rest ∧
        attach segment template = .literal (front ++ back) :: rest) ∨
      (attach segment template = segment :: template ∧
        ∀ first ∈ template.head?, segment.isLiteral = false ∨ first.isLiteral = false) := by
  cases segment with
  | placeholder name => exact .inr ⟨rfl, fun _ _ => .inl rfl⟩
  | literal front =>
      cases template with
      | nil => exact .inr ⟨rfl, by simp⟩
      | cons head rest =>
          cases head with
          | literal back => exact .inl ⟨front, back, rest, rfl, rfl, rfl⟩
          | placeholder name => exact .inr ⟨rfl, by simp [Segment.isLiteral]⟩

@[simp]
theorem characters_attach (segment : Segment) (template : Template) :
    (attach segment template).characters = segment.source.toList ++ template.characters := by
  rcases attach_cases segment template with ⟨front, back, rest, rfl, rfl, merged⟩ | ⟨put, -⟩
  · simp [merged]
  · simp [put]

@[simp]
theorem placeholders_attach (segment : Segment) (template : Template) :
    (attach segment template).placeholders = placeholders (segment :: template) := by
  rcases attach_cases segment template with ⟨front, back, rest, rfl, rfl, merged⟩ | ⟨put, -⟩
  · simp [merged]
  · rw [put]

@[simp]
theorem filled_attach (bindings : Bindings) (segment : Segment) (template : Template) :
    filled bindings (attach segment template) =
      segment.filled bindings ++ template.filled bindings := by
  rcases attach_cases segment template with ⟨front, back, rest, rfl, rfl, merged⟩ | ⟨put, -⟩
  · simp [merged, Segment.filled, String.append_assoc]
  · simp [put]

theorem characters_joined (before after : Template) :
    (joined before after).characters = before.characters ++ after.characters := by
  induction before with
  | nil => simp
  | cons segment before induction => simp [induction]

theorem placeholders_joined (before after : Template) :
    (joined before after).placeholders = before.placeholders ++ after.placeholders := by
  induction before with
  | nil => simp
  | cons segment before induction => cases segment <;> simp [induction]

theorem filled_joined (bindings : Bindings) (before after : Template) :
    filled bindings (joined before after) = before.filled bindings ++ after.filled bindings := by
  induction before with
  | nil => simp
  | cons segment before induction => simp [induction, String.append_assoc]

theorem firstUnbound_joined (bindings : Bindings) (before after : Template) :
    firstUnbound bindings (joined before after) =
      (before.firstUnbound bindings).or (after.firstUnbound bindings) := by
  simp [firstUnbound, placeholders_joined]

namespace Canonical

theorem cons_iff {segment : Segment} {template : Template} :
    Canonical (segment :: template) ↔ segment.Canonical ∧ template.Canonical ∧
      ∀ first ∈ template.head?, segment.isLiteral = false ∨ first.isLiteral = false := by
  have split : Canonical ([segment] ++ template) ↔ _ := append_iff
  simpa [singleton_iff] using split

/-- A piece of a canonical template may be attached to any other one. -/
theorem attach {segment : Segment} {template : Template} (piece : segment.Canonical)
    (canonical : template.Canonical) : (attach segment template).Canonical := by
  rcases attach_cases segment template with ⟨front, back, rest, rfl, rfl, merged⟩ | ⟨put, seam⟩
  · obtain ⟨next, others, seam⟩ := cons_iff.1 canonical
    have plain : BraceFree (front ++ back).toList := by
      rw [String.toList_append]
      exact braceFree_append_iff.2 ⟨piece.2, next.2⟩
    have nonempty : front ++ back ≠ "" := by
      intro empty
      exact piece.1 (String.append_eq_empty_iff.1 empty).1
    rw [merged]
    exact cons_iff.2 ⟨⟨nonempty, plain⟩, others, seam⟩
  · rw [put]
    exact cons_iff.2 ⟨piece, canonical, seam⟩

theorem joined {before after : Template} (segments : ∀ segment ∈ before, segment.Canonical)
    (canonical : after.Canonical) : (joined before after).Canonical := by
  induction before with
  | nil => exact canonical
  | cons segment before induction =>
      obtain ⟨piece, others⟩ := List.forall_mem_cons.1 segments
      exact attach piece (induction others)

end Canonical

/-! ## Reading the whole -/

/-- A template behind a template is read as the two templates, joined. -/
theorem parse_append {first second : String} {before after : Template}
    (readFirst : parse first = .ok before) (readSecond : parse second = .ok after) :
    parse (first ++ second) = .ok (before.joined after) := by
  obtain ⟨canonicalBefore, rfl⟩ := parse_eq_ok_iff.1 readFirst
  obtain ⟨canonicalAfter, rfl⟩ := parse_eq_ok_iff.1 readSecond
  have canonical : (before.joined after).Canonical :=
    Canonical.joined canonicalBefore.segments canonicalAfter
  have whole : (before.joined after).source = before.source ++ after.source := by
    apply String.toList_inj.1
    rw [String.toList_append]
    exact characters_joined before after
  exact parse_eq_ok_iff.2 ⟨canonical, whole⟩

theorem Accepted.append {before after : List Char} (front : Accepted before)
    (back : Accepted after) : Accepted (before ++ after) := by
  obtain ⟨first, readFirst⟩ := front
  obtain ⟨second, readSecond⟩ := back
  refine ⟨first.joined second, ?_⟩
  rw [String.ofList_append]
  exact parse_append readFirst readSecond

/-- An offence behind a template is the same offence, as many bytes later as the template has. -/
theorem Commits.behind {before text : List Char} {error : SyntaxError} (accepted : Accepted before)
    (commits : Commits text error) :
    Commits (before ++ text) ⟨byteLength before + error.position, error.offence⟩ := by
  cases commits with
  | @unmatched front after acceptedFront text_eq =>
      have whole : before ++ text = before ++ front ++ '}' :: after := by simp [text_eq]
      rw [← byteLength_append]
      exact .unmatched (accepted.append acceptedFront) whole
  | @nested front between after acceptedFront plain text_eq =>
      have whole : before ++ text = before ++ front ++ '{' :: (between ++ '{' :: after) := by
        simp [text_eq]
      rw [← byteLength_append, ← List.append_assoc]
      exact .nested (accepted.append acceptedFront) plain whole
  | @empty front blank after acceptedFront blanks text_eq =>
      have whole : before ++ text = before ++ front ++ '{' :: (blank ++ '}' :: after) := by
        simp [text_eq]
      rw [← byteLength_append]
      exact .empty (accepted.append acceptedFront) blanks whole
  | @unclosed front after acceptedFront plain text_eq =>
      have whole : before ++ text = before ++ front ++ '{' :: after := by simp [text_eq]
      rw [← byteLength_append]
      exact .unclosed (accepted.append acceptedFront) plain whole

theorem parse_append_of_error {first second : String} {before : Template} {error : SyntaxError}
    (readFirst : parse first = .ok before) (readSecond : parse second = .error error) :
    parse (first ++ second) = .error ⟨first.utf8ByteSize + error.position, error.offence⟩ := by
  have accepted : Accepted first.toList := ⟨before, by rwa [String.ofList_toList]⟩
  have commits : Commits second.toList error := parse_eq_error_iff.1 readSecond
  have size : byteLength first.toList = first.utf8ByteSize := by
    rw [← length_bytes, length_bytes_toList]
  apply parse_of_commits
  rw [String.toList_append, ← size]
  exact commits.behind accepted

/-! ## Substitution, names and validity of the whole -/

theorem spans_append {first : String} {before : Template} (read : parse first = .ok before)
    (second : String) : spans (first ++ second) = spans first ++ spans second := by
  have alone := spans_of_parse read
  obtain ⟨canonical, rfl⟩ := parse_eq_ok_iff.1 read
  rw [alone, spans, String.toList_append]
  exact spansFrom_characters_append canonical.segments second.toList

theorem isValid_append {first : String} {before : Template} (read : parse first = .ok before)
    (second : String) : isValid (first ++ second) = isValid second := by
  cases readSecond : parse second with
  | ok after => rw [isValid_of_ok readSecond, isValid_of_ok (parse_append read readSecond)]
  | error error =>
      rw [isValid_of_error readSecond, isValid_of_error (parse_append_of_error read readSecond)]

/-- What substitution makes of a text behind a template is decided by the two parts.  An offence in
the text comes first, then what is missing in the template, then what is missing in the text. -/
theorem concatenation_joins_outcomes {first : String} {before : Template}
    (read : parse first = .ok before) (second : String) (bindings : Bindings) :
    (∀ error, parse second = .error error →
      substitute (first ++ second) bindings =
        .error (.malformed ⟨first.utf8ByteSize + error.position, error.offence⟩)) ∧
    (∀ after, parse second = .ok after →
      match substitute first bindings, substitute second bindings with
      | .error error, _ => (∃ name, error = .missingVariable name) ∧
          substitute (first ++ second) bindings = .error error
      | .ok _, .error error => (∃ name, error = .missingVariable name) ∧
          substitute (first ++ second) bindings = .error error
      | .ok front, .ok back => substitute (first ++ second) bindings = .ok (front ++ back)) ∧
    (names (first ++ second)).Pairwise (· < ·) ∧
    (∀ name, name ∈ names (first ++ second) ↔ name ∈ names first ∨ name ∈ names second) ∧
    isValid (first ++ second) = isValid second := by
  refine ⟨fun error failed => ?_, fun after readSecond => ?_, pairwise_names _, fun name => ?_,
    isValid_append read second⟩
  · exact substitute_of_error (parse_append_of_error read failed) bindings
  · rw [substitute_of_ok read, substitute_of_ok readSecond,
      substitute_of_ok (parse_append read readSecond), firstUnbound_joined, filled_joined]
    cases before.firstUnbound bindings with
    | some name => exact ⟨⟨name, rfl⟩, rfl⟩
    | none =>
        cases after.firstUnbound bindings with
        | some name => exact ⟨⟨name, rfl⟩, rfl⟩
        | none => rfl
  · rw [mem_names_iff, mem_names_iff, mem_names_iff, spans_append read, List.mem_append]

/-- An offence behind a template is reported although a name in the template is unbound.  Where
nothing is wrong, literal texts meet at the seam. -/
theorem concatenation_joins_outcomes_at_seam :
    parse "é{x}b" = .ok [.literal "é", .placeholder "x", .literal "b"] ∧
      substitute ("é{x}b" ++ "→\x7d") Dictionary.empty =
        .error (.malformed ⟨9, .unmatchedCloseBrace⟩) ∧
      substitute ("é{x}b" ++ "a{y}") (Dictionary.ofPairs [("x", .string "\x7b"), ("y", .null)]) =
        .ok "é\x7bba" ∧
      isValid ("é{x}b" ++ "→\x7d") = false := by
  have read : parse "é{x}b" = .ok [.literal "é", .placeholder "x", .literal "b"] := by decide
  have offends : parse "→\x7d" = .error ⟨3, .unmatchedCloseBrace⟩ := by decide
  have readSecond : parse "a{y}" = .ok [.literal "a", .placeholder "y"] := by decide
  let bindings : Bindings := Dictionary.ofPairs [("x", .string "\x7b"), ("y", .null)]
  have front : substitute "é{x}b" bindings = .ok "é\x7bb" := by decide
  have back : substitute "a{y}" bindings = .ok "a" := by decide
  have malformed :=
    (concatenation_joins_outcomes read "→\x7d" Dictionary.empty).1 _ offends
  have rendered := (concatenation_joins_outcomes read "a{y}" bindings).2.1 _ readSecond
  have valid := (concatenation_joins_outcomes read "→\x7d" bindings).2.2.2.2
  rw [front, back] at rendered
  exact ⟨read, malformed, rendered, valid.trans (by decide)⟩

end Template
end Stencil
