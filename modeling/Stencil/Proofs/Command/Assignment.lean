import Stencil.Bindings
import Stencil.Command.Assignment
import Stencil.Proofs.Json.Literals

/-!
# What an argument binds

An argument is split at its first equals sign.  It fails if there is none or if nothing stands
before it.  Otherwise the text behind it is decoded exactly if it is a literal with white space
around it, and is bound as typed if it is any other text.
-/

namespace Stencil
namespace Assignment

/-! ## The first equals sign -/

theorem split?_eq_none_iff {text : List Char} : split? text = none ↔ '=' ∉ text := by
  induction text with
  | nil => simp [split?]
  | cons character text ih =>
      rw [split?]
      split_ifs with isSign
      · simp [isSign]
      · have notSign : '=' ≠ character := Ne.symm isSign
        simp [ih, notSign]

theorem split?_append {name : List Char} (noSign : '=' ∉ name) (raw : List Char) :
    split? (name ++ '=' :: raw) = some (name, raw) := by
  induction name with
  | nil => rfl
  | cons character name ih =>
      obtain ⟨notSign, others⟩ := not_or.1 (mt List.mem_cons.2 noSign)
      have differs : character ≠ '=' := Ne.symm notSign
      rw [List.cons_append, split?, if_neg differs, ih others]
      rfl

/-- An argument has no equals sign, starts with one, or has a name before the first one. -/
theorem argument_cases (argument : String) :
    '=' ∉ argument.toList ∨ (∃ raw, argument = "=" ++ raw) ∨
      ∃ name raw, name ≠ "" ∧ '=' ∉ name.toList ∧ argument = name ++ "=" ++ raw := by
  by_cases sign : '=' ∈ argument.toList
  · right
    obtain ⟨name, raw, split, noSign⟩ := List.eq_append_cons_of_mem sign
    have parts : argument = String.ofList name ++ "=" ++ String.ofList raw := by
      apply String.toList_inj.1
      simp [split]
    cases name with
    | nil => exact .inl ⟨String.ofList raw, parts⟩
    | cons character name =>
        refine .inr ⟨_, _, ?_, ?_, parts⟩
        · simp
        · simpa using noSign
  · exact .inl sign

/-! ## The value -/

theorem decode_of_denotes {raw : String} {value : Json} (denotes : Json.Denotes raw.toList value) :
    decode raw = value := by
  have written := denotes.hasLiteral
  have read : Json.ofText? raw = some value := (Json.read?_eq_some_iff written).2 denotes
  rw [decode, read]
  cases value with
  | string | boolean | null => rfl
  | number | array | object => cases written

theorem decode_of_not_denotes {raw : String}
    (undecoded : ∀ value, ¬ Json.Denotes raw.toList value) : decode raw = .string raw := by
  unfold decode
  split
  next text read => exact absurd ((Json.read?_eq_some_iff rfl).1 read) (undecoded _)
  next value read => exact absurd ((Json.read?_eq_some_iff rfl).1 read) (undecoded _)
  next read => exact absurd ((Json.read?_eq_some_iff rfl).1 read) (undecoded _)
  next => rfl

/-! ## The argument -/

theorem parse_of_noSign {argument : String} (noSign : '=' ∉ argument.toList) :
    parse argument = .error (.noEqualsSign argument) := by
  rw [parse, split?_eq_none_iff.2 noSign]

theorem parse_of_named {name raw : String} (named : name ≠ "") (noSign : '=' ∉ name.toList) :
    parse (name ++ "=" ++ raw) = .ok (name, decode raw) := by
  have shape : (name ++ "=" ++ raw).toList = name.toList ++ '=' :: raw.toList := by simp
  rw [parse, shape, split?_append noSign raw.toList]
  cases characters : name.toList with
  | nil => exact absurd (String.toList_eq_nil_iff.1 characters) named
  | cons character tail =>
      simp only [← characters, String.ofList_toList]

theorem parse_of_sign (raw : String) : parse ("=" ++ raw) = .error (.emptyName ("=" ++ raw)) := by
  have shape : ("=" ++ raw).toList = '=' :: raw.toList := by simp
  rw [parse, shape, split?, if_pos rfl]

/-- An argument fails without an equals sign or without a name, and in no other way. -/
theorem parse_eq_error_iff {argument : String} {error : ArgumentError} :
    parse argument = .error error ↔
      ('=' ∉ argument.toList ∧ error = .noEqualsSign argument) ∨
        (∃ raw, argument = "=" ++ raw) ∧ error = .emptyName argument := by
  constructor
  · intro failed
    rcases argument_cases argument with noSign | ⟨raw, rfl⟩ | ⟨name, raw, named, noSign, rfl⟩
    · rw [parse_of_noSign noSign] at failed
      exact .inl ⟨noSign, (Except.error.inj failed).symm⟩
    · rw [parse_of_sign] at failed
      exact .inr ⟨⟨raw, rfl⟩, (Except.error.inj failed).symm⟩
    · rw [parse_of_named named noSign] at failed
      cases failed
  · rintro (⟨noSign, rfl⟩ | ⟨⟨raw, rfl⟩, rfl⟩)
    · exact parse_of_noSign noSign
    · exact parse_of_sign raw

theorem message_noEqualsSign_ne (argument other : String) :
    (ArgumentError.noEqualsSign argument).message ≠ (ArgumentError.emptyName other).message := by
  have signFront : "expected NAME=VALUE, got '".toList =
      'e' :: 'x' :: "pected NAME=VALUE, got '".toList := by decide
  have nameFront : "empty variable name in '".toList =
      'e' :: 'm' :: "pty variable name in '".toList := by decide
  unfold ArgumentError.message
  intro same
  have characters := congrArg String.toList same
  simp only [String.toList_append, signFront, nameFront, List.cons_append] at characters
  obtain ⟨-, tails⟩ := List.cons.inj characters
  obtain ⟨second, -⟩ := List.cons.inj tails
  exact absurd second (by decide)

theorem complains_of_sign_iff {argument : String} :
    (∃ error, parse argument = .error error ∧
        error.message = "expected NAME=VALUE, got '" ++ argument ++ "'") ↔
      '=' ∉ argument.toList := by
  constructor
  · rintro ⟨error, failed, message⟩
    rcases parse_eq_error_iff.1 failed with ⟨noSign, -⟩ | ⟨-, rfl⟩
    · exact noSign
    · exact absurd message.symm (message_noEqualsSign_ne argument argument)
  · intro noSign
    exact ⟨_, parse_of_noSign noSign, rfl⟩

theorem complains_of_name_iff {argument : String} :
    (∃ error, parse argument = .error error ∧
        error.message = "empty variable name in '" ++ argument ++ "'") ↔
      ∃ raw, argument = "=" ++ raw := by
  constructor
  · rintro ⟨error, failed, message⟩
    rcases parse_eq_error_iff.1 failed with ⟨-, rfl⟩ | ⟨starts, -⟩
    · exact absurd message (message_noEqualsSign_ne argument argument)
    · exact starts
  · rintro ⟨raw, rfl⟩
    exact ⟨_, parse_of_sign raw, rfl⟩

/-- An argument fails without an equals sign or without a name before the first one.  Otherwise the
value is what follows, decoded if it is a literal with white space around it, and as typed if not.
Numbers, arrays and objects are never literals. -/
theorem undecoded_text_is_kept (argument : String) :
    ((∃ error, parse argument = .error error ∧
        error.message = "expected NAME=VALUE, got '" ++ argument ++ "'") ↔
      '=' ∉ argument.toList) ∧
    ((∃ error, parse argument = .error error ∧
        error.message = "empty variable name in '" ++ argument ++ "'") ↔
      ∃ raw, argument = "=" ++ raw) ∧
    ('=' ∈ argument.toList → (∀ raw, argument ≠ "=" ++ raw) →
      ∃ name raw value, argument = name ++ "=" ++ raw ∧ name ≠ "" ∧ '=' ∉ name.toList ∧
        parse argument = .ok (name, value) ∧
        (∀ other, Json.Denotes raw.toList other → value = other) ∧
        ((∀ other, ¬ Json.Denotes raw.toList other) → value = .string raw ∧ value.rendered = raw) ∧
        (∀ before first tail, Json.Blank before → first ∈ "-0123456789[\x7b".toList →
          raw.toList = before ++ first :: tail → value = .string raw ∧ value.rendered = raw)) := by
  refine ⟨complains_of_sign_iff, complains_of_name_iff, ?_⟩
  intro sign nameless
  rcases argument_cases argument with noSign | ⟨raw, starts⟩ | ⟨name, raw, named, noSign, rfl⟩
  · exact absurd sign noSign
  · exact absurd starts (nameless raw)
  · have kept : (∀ other, ¬ Json.Denotes raw.toList other) →
        decode raw = .string raw ∧ (decode raw).rendered = raw := by
      intro undecoded
      rw [decode_of_not_denotes undecoded]
      exact ⟨rfl, rfl⟩
    refine ⟨name, raw, decode raw, rfl, named, noSign, parse_of_named named noSign, ?_, kept, ?_⟩
    · intro other denotes
      exact decode_of_denotes denotes
    · intro before first tail blank isFirst shape
      have listed : "-0123456789[\x7b".toList.all (fun first =>
          first ∉ [' ', '\t', '\n', '\r'] ∧ first ∉ ['"', 't', 'f', 'n']) = true := by decide
      obtain ⟨visible, unlike⟩ := of_decide_eq_true (List.all_eq_true.1 listed first isFirst)
      apply kept
      intro other
      rw [shape]
      exact Json.not_denotes_of_head blank visible unlike

example : decode " \"\\u00e9\\ud83d\\ude00\"\t" = .string "é😀" ∧
    decode "\"\\ud83d\"" = .string "\"\\ud83d\"" ∧ decode "true " = .boolean true := by
  refine ⟨?_, ?_, ?_⟩ <;> cbv

end Assignment
end Stencil
