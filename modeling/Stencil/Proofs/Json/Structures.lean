import Stencil.Proofs.Dictionary
import Stencil.Proofs.Json.Integers
import Stencil.Proofs.Json.Quoting

/-!
# Arrays and objects

The text of an array or an object is a JSON text from which the value can be read again, as long as
its numbers are integers that are kept exactly.  What is written never starts or ends with space, so
the reader finds every value where the one before it ends.
-/

namespace Stencil
namespace Json

/-! ## Values that can be read again -/

/-- Whether the value is an array or an object. -/
def isStructure : Json → Bool
  | array _ | object _ => true
  | _ => false

mutual

/-- Whether all numbers in a value are integers that are kept exactly. -/
def Exact : Json → Prop
  | number (.integer value) => -2 ^ 63 ≤ value ∧ value < 2 ^ 64
  | number (.real _) => False
  | array items => ItemsExact items
  | object fields => FieldsExact fields
  | _ => True

/-- Whether all numbers in the values of an array are integers that are kept exactly. -/
def ItemsExact : List Json → Prop
  | [] => True
  | item :: items => item.Exact ∧ ItemsExact items

/-- Whether all numbers in the values of fields are integers that are kept exactly. -/
def FieldsExact : List (String × Json) → Prop
  | [] => True
  | (_, value) :: fields => value.Exact ∧ FieldsExact fields

end

variable {text rest : List Char} {value : Json} {fuel : Nat}

theorem isExact_of_bounds {value : Int} (bounds : -2 ^ 63 ≤ value ∧ value < 2 ^ 64) :
    Number.isExact value = true := by
  simp only [Number.isExact, Bool.and_eq_true, decide_eq_true_eq]
  omega

/-- The first character of a written value is no space and closes nothing. -/
theorem exists_characters (exact : value.Exact) :
    ∃ first tail, value.characters = first :: tail ∧
      first ∉ [' ', '\t', '\n', '\r', ']', '\x7d'] := by
  cases value with
  | null => exact ⟨_, _, rfl, by decide⟩
  | boolean value => cases value <;> exact ⟨_, _, rfl, by decide⟩
  | number value =>
      cases value with
      | integer value => exact exists_integerText value _ (by simp)
      | real value => exact absurd exact (by simp [Exact])
  | string string => exact ⟨_, _, rfl, by decide⟩
  | array items => exact ⟨_, _, rfl, by decide⟩
  | object fields => exact ⟨_, _, rfl, by decide⟩

/-- The text of the values of an array starts like that of the first value. -/
theorem exists_itemsCharacters (exact : value.Exact) (items : List Json) :
    ∃ first tail, itemsCharacters (value :: items) = first :: tail ∧
      first ∉ [' ', '\t', '\n', '\r', ']', '\x7d'] := by
  obtain ⟨first, tail, shape, visible⟩ := exists_characters exact
  cases items with
  | nil => exact ⟨first, tail, by rw [itemsCharacters_singleton, shape], visible⟩
  | cons next items =>
      exact ⟨first, _, by rw [itemsCharacters_cons_cons, shape, List.cons_append], visible⟩

theorem exists_fieldsCharacters (field : String × Json) (fields : List (String × Json)) :
    ∃ tail, fieldsCharacters (field :: fields) = '"' :: tail := by
  obtain ⟨name, value⟩ := field
  cases fields with
  | nil => exact ⟨_, fieldsCharacters_singleton name value⟩
  | cons next fields => exact ⟨_, fieldsCharacters_cons_cons name value next fields⟩

/-! ## Single steps of the reader -/

theorem readValue_integer {value : Int} (exact : Number.isExact value = true) (ends : Ends rest) :
    readValue (fuel + 1) (integerText value ++ rest) = some (.number (.integer value), rest) := by
  obtain ⟨first, tail, shape, other⟩ := exists_integerText value
    [' ', '\t', '\n', '\r', '"', 't', 'f', 'n', '[', '\x7b'] (by simp)
  have read := readNumber_integerText exact ends
  simp only [List.mem_cons, List.not_mem_nil, or_false, not_or] at other
  have visible : first ∉ [' ', '\t', '\n', '\r'] := by simp [other]
  rw [shape, List.cons_append] at read ⊢
  rw [readValue, skipSpace_cons visible]
  simp [other, read]

theorem readValue_array {first : Char} {tail : List Char} {items : List Json}
    (visible : first ∉ [' ', '\t', '\n', '\r']) (notClosing : first ≠ ']')
    (read : readItems fuel (first :: tail) = some (items, rest)) :
    readValue (fuel + 1) ('[' :: first :: tail) = some (.array items, rest) := by
  rw [readValue, skipSpace_cons (by decide)]
  simp [skipSpace_cons visible, notClosing, read]

theorem readValue_object {tail : List Char} {fields : List (String × Json)}
    (read : readFields fuel ('"' :: tail) = some (fields, rest)) :
    readValue (fuel + 1) ('\x7b' :: '"' :: tail) = some (.ofPairs fields, rest) := by
  rw [readValue, skipSpace_cons (by decide)]
  simp [skipSpace_cons, read]

theorem readItems_last {item : Json} (read : readValue fuel text = some (item, ']' :: rest)) :
    readItems (fuel + 1) text = some ([item], rest) := by
  rw [readItems, read]
  rfl

theorem readItems_more {item : Json} {items : List Json} {others : List Char}
    (read : readValue fuel text = some (item, ',' :: others))
    (readOthers : readItems fuel others = some (items, rest)) :
    readItems (fuel + 1) text = some (item :: items, rest) := by
  rw [readItems, read]
  simp [skipSpace_cons, readOthers]

theorem readString_quote_append (name : String) (text : List Char) :
    ∃ tail, quote name ++ text = '"' :: tail ∧ readString tail = some (name.toList, text) := by
  refine ⟨_, quote_append name text, ?_⟩
  exact readString_of_spells (spells_flatMap_escape name.toList) text

theorem readFields_last (name : String)
    (read : readValue fuel text = some (value, '\x7d' :: rest)) :
    readFields (fuel + 1) (quote name ++ ':' :: text) = some ([(name, value)], rest) := by
  obtain ⟨tail, shape, readName⟩ := readString_quote_append name (':' :: text)
  rw [shape, readFields, skipSpace_cons (by decide)]
  simp [readName, skipSpace_cons, read]

theorem readFields_more (name : String) {fields : List (String × Json)} {others : List Char}
    (read : readValue fuel text = some (value, ',' :: others))
    (readOthers : readFields fuel others = some (fields, rest)) :
    readFields (fuel + 1) (quote name ++ ':' :: text) = some ((name, value) :: fields, rest) := by
  obtain ⟨tail, shape, readName⟩ := readString_quote_append name (':' :: text)
  rw [shape, readFields, skipSpace_cons (by decide)]
  simp [readName, skipSpace_cons, read, readOthers]

/-! ## The reader on written values -/

/-- Whether values whose text is no longer than the fuel are read again. -/
def ReadsValues (fuel : Nat) : Prop :=
  ∀ {value : Json} {rest : List Char}, value.Ordered → value.Exact →
    value.characters.length ≤ fuel → Ends rest →
      readValue fuel (value.characters ++ rest) = some (value, rest)

/-- Whether the values of arrays whose text is shorter than the fuel are read again. -/
def ReadsItems (fuel : Nat) : Prop :=
  ∀ {item : Json} {items : List Json} {rest : List Char}, ItemsOrdered (item :: items) →
    ItemsExact (item :: items) → (itemsCharacters (item :: items)).length < fuel →
      readItems fuel (itemsCharacters (item :: items) ++ ']' :: rest) = some (item :: items, rest)

/-- Whether the fields of objects whose text is shorter than the fuel are read again. -/
def ReadsFields (fuel : Nat) : Prop :=
  ∀ {field : String × Json} {fields : List (String × Json)} {rest : List Char},
    FieldsOrdered (field :: fields) → FieldsExact (field :: fields) →
      (fieldsCharacters (field :: fields)).length < fuel →
        readFields fuel (fieldsCharacters (field :: fields) ++ '\x7d' :: rest) =
          some (field :: fields, rest)

theorem readsValues_succ (readsItems : ReadsItems fuel) (readsFields : ReadsFields fuel) :
    ReadsValues (fuel + 1) := by
  intro value rest ordered exact enough ends
  cases value with
  | null => exact readValue_of_literal .nullName (Literal.skipSpace .nullName rest) fuel
  | boolean value =>
      cases value with
      | true => exact readValue_of_literal .trueName (Literal.skipSpace .trueName rest) fuel
      | false => exact readValue_of_literal .falseName (Literal.skipSpace .falseName rest) fuel
  | number value =>
      cases value with
      | integer value => exact readValue_integer (isExact_of_bounds exact) ends
      | real value => exact absurd exact (by simp [Exact])
  | string string =>
      have literal := literal_quote string
      exact readValue_of_literal literal (literal.skipSpace rest) fuel
  | array items =>
      rw [characters_array_append]
      cases items with
      | nil => rfl
      | cons item items =>
          obtain ⟨first, tail, start, visible⟩ := exists_itemsCharacters exact.1 items
          simp only [List.mem_cons, List.not_mem_nil, or_false, not_or] at visible
          have shorter : (itemsCharacters (item :: items)).length < fuel := by
            simp [characters] at enough
            omega
          have read : readItems fuel (itemsCharacters (item :: items) ++ ']' :: rest) =
              some (item :: items, rest) :=
            readsItems ordered exact shorter
          rw [start, List.cons_append] at read ⊢
          exact readValue_array (by simp [visible]) (by simp [visible]) read
  | object fields =>
      rw [characters_object_append]
      cases fields with
      | nil => rfl
      | cons field fields =>
          obtain ⟨tail, start⟩ := exists_fieldsCharacters field fields
          have shorter : (fieldsCharacters (field :: fields)).length < fuel := by
            simp [characters] at enough
            omega
          have read : readFields fuel (fieldsCharacters (field :: fields) ++ '\x7d' :: rest) =
              some (field :: fields, rest) :=
            readsFields ordered.2 exact shorter
          rw [start, List.cons_append] at read ⊢
          rw [readValue_object read, ofPairs, ordered.1.ofPairs_eq_self]

theorem readsItems_succ (readsValues : ReadsValues fuel) (readsItems : ReadsItems fuel) :
    ReadsItems (fuel + 1) := by
  intro item items rest ordered exact enough
  cases items with
  | nil =>
      rw [itemsCharacters_singleton] at enough ⊢
      exact readItems_last
        (readsValues ordered.1 exact.1 (by omega) (ends_cons (by decide) rest))
  | cons next items =>
      rw [itemsCharacters_cons_cons] at enough ⊢
      simp only [List.length_append, List.length_cons] at enough
      rw [List.append_assoc, List.cons_append]
      exact readItems_more
        (readsValues ordered.1 exact.1 (by omega) (ends_cons (by decide) _))
        (readsItems ordered.2 exact.2 (by omega))

theorem readsFields_succ (readsValues : ReadsValues fuel) (readsFields : ReadsFields fuel) :
    ReadsFields (fuel + 1) := by
  rintro ⟨name, value⟩ fields rest ordered exact enough
  cases fields with
  | nil =>
      rw [fieldsCharacters_singleton] at enough ⊢
      simp only [List.length_append, List.length_cons] at enough
      rw [List.append_assoc, List.cons_append]
      exact readFields_last name
        (readsValues ordered.1 exact.1 (by omega) (ends_cons (by decide) rest))
  | cons next fields =>
      rw [fieldsCharacters_cons_cons] at enough ⊢
      simp only [List.length_append, List.length_cons] at enough
      rw [List.append_assoc, List.cons_append, List.append_assoc, List.cons_append]
      exact readFields_more name
        (readsValues ordered.1 exact.1 (by omega) (ends_cons (by decide) _))
        (readsFields ordered.2 exact.2 (by omega))

/-- What is written is read again. -/
theorem reads_written (fuel : Nat) : ReadsValues fuel ∧ ReadsItems fuel ∧ ReadsFields fuel := by
  induction fuel with
  | zero =>
      refine ⟨?_, ?_, ?_⟩
      · intro value rest _ exact enough
        obtain ⟨first, tail, shape, -⟩ := exists_characters exact
        simp [shape] at enough
      · intro item items rest _ _ enough
        exact absurd enough (Nat.not_lt_zero _)
      · intro field fields rest _ _ enough
        exact absurd enough (Nat.not_lt_zero _)
  | succ fuel induction =>
      obtain ⟨values, items, fields⟩ := induction
      exact ⟨readsValues_succ items fields, readsItems_succ values items,
        readsFields_succ values fields⟩

/-- A text is read as the value for which it is written. -/
theorem ofText?_text (ordered : value.Ordered) (exact : value.Exact) :
    ofText? value.text = some value := by
  have read := (reads_written (2 * value.characters.length + 1)).1 ordered exact (by omega) ends_nil
  rw [List.append_nil] at read
  rw [ofText?, toList_text, read?, read]
  rfl

theorem rendered_of_isStructure (structured : value.isStructure = true) :
    value.rendered = value.text := by
  cases value with
  | array items => rfl
  | object fields => rfl
  | _ => cases structured

/-- An array or an object can be read again from what is rendered for it, so no two of them are
rendered alike.  The literals in the text are exactly those of the strings inside, names of fields
among them, while a string alone is rendered as it is. -/
theorem structures_are_rendered_without_loss {value : Json}
    (structured : value.isStructure = true) :
    (value.Ordered → value.Exact → ofText? value.rendered = some value ∧
      ∀ other : Json, other.isStructure = true → other.Ordered → other.Exact →
        other.rendered = value.rendered → other = value) ∧
    (∀ strings, Quotes value.rendered.toList strings ↔ strings = value.strings) ∧
    ∀ text, (string text).rendered = text := by
  rw [rendered_of_isStructure structured]
  refine ⟨?_, ?_, fun text => rfl⟩
  · intro ordered exact
    have read := ofText?_text ordered exact
    refine ⟨read, ?_⟩
    intro other otherStructured otherOrdered otherExact same
    have readOther := ofText?_text otherOrdered otherExact
    rw [← rendered_of_isStructure otherStructured, same, read] at readOther
    exact (Option.some.inj readOther).symm
  · intro strings
    have quotes : Quotes value.text.toList value.strings := by
      have all := quotes_characters value .nil
      rwa [List.append_nil, List.append_nil, ← toList_text] at all
    constructor
    · intro others
      exact others.unique quotes
    · rintro rfl
      exact quotes

/-- Empty parts, integers at both ends of the range, and strings with escapes. -/
theorem structures_are_rendered_without_loss_nested :
    let value := object [("", array []),
      ("a\"b", array [integer (-2 ^ 63), integer (2 ^ 64 - 1), null, object []]),
      ("é", string "\\\n")]
    let text := "\x7b\"\":[],\"a\\\"b\":[-9223372036854775808,18446744073709551615,null," ++
      "\x7b\x7d],\"é\":\"\\\\\\n\"\x7d"
    value.isStructure = true ∧ value.Ordered ∧ value.Exact ∧ value.rendered = text ∧
      ofText? text = some value ∧ Quotes text.toList ["", "a\"b", "é", "\\\n"] := by
  intro value text
  have ordered : value.Ordered := by
    simp only [value, Ordered, ItemsOrdered, FieldsOrdered, Entries.Sorted, integer]
    decide
  have exact : value.Exact := by
    simp [value, Exact, ItemsExact, FieldsExact, integer]
  have written : value.rendered = text := by decide
  obtain ⟨read, quoted, -⟩ := @structures_are_rendered_without_loss value rfl
  rw [written] at read quoted
  exact ⟨rfl, ordered, exact, written, (read ordered exact).1, (quoted _).2 rfl⟩

end Json
end Stencil
