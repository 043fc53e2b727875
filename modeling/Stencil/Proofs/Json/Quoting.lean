import Stencil.Bindings
import Stencil.Proofs.Json.Literals

/-!
# Quoted strings

A string is written between quotes with an escape for each character that may not stand there.  So
what is written is a literal of the string.  Arrays and objects are written part by part, and every
string inside them, a name or a value, is written as such a literal.
-/

namespace Stencil
namespace Json

open Text

/-! ## Literals -/

theorem isHexDigit_digitChar {value : Nat} (small : value < 16) :
    IsHexDigit value.digitChar value := by
  have all : ∀ value < 16, IsHexDigit value.digitChar value := by decide
  exact all value small

/-- A character is written as a backslash and a letter, as a code unit in digits, or as it is. -/
theorem escape_cases (character : Char) :
    (∃ letter, (letter, character) ∈ letterEscapes ∧ escape character = ['\\', letter]) ∨
      (character.toNat < 0x20 ∧ escape character =
        ['\\', 'u', '0', '0', (character.toNat / 16).digitChar,
          (character.toNat % 16).digitChar]) ∨
      (0x20 ≤ character.toNat ∧ character ≠ '"' ∧ character ≠ '\\' ∧
        escape character = [character]) := by
  unfold escape
  split_ifs with quote backslash backspace feed line carriage tab control
  -- The last two branches first; all others have a letter.
  rotate_right 2
  · exact .inr (.inl ⟨control, rfl⟩)
  · exact .inr (.inr ⟨by omega, quote, backslash, rfl⟩)
  all_goals
    subst character
    exact .inl ⟨_, by decide, rfl⟩

/-- A character is written by characters that spell its code units. -/
theorem spells_escape (character : Char) {body : List Char} {units : List Nat}
    (rest : Spells body units) :
    Spells (escape character ++ body) (utf16Units character ++ units) := by
  rcases escape_cases character with
    ⟨letter, listed, written⟩ | ⟨control, written⟩ | ⟨visible, notQuote, notBackslash, written⟩
  · rw [written]
    exact .letter listed rest
  · have single : utf16Units character = [character.toNat] := if_pos (by omega)
    have isUnit : IsCodeUnit '0' '0' (character.toNat / 16).digitChar
        (character.toNat % 16).digitChar character.toNat := by
      refine ⟨0, 0, character.toNat / 16, character.toNat % 16, by decide, by decide, ?_, ?_, ?_⟩
      · exact isHexDigit_digitChar (by omega)
      · exact isHexDigit_digitChar (by omega)
      · omega
    rw [written, single]
    exact .unit isUnit rest
  · rw [written]
    exact .plain visible notQuote notBackslash rest

theorem spells_flatMap_escape (text : List Char) : Spells (text.flatMap escape) (utf16 text) := by
  induction text with
  | nil => exact .nil
  | cons character text induction => exact spells_escape character induction

theorem quote_append (string : String) (text : List Char) :
    quote string ++ text = '"' :: (string.toList.flatMap escape ++ '"' :: text) := by
  simp [quote]

/-- A string is written as a literal of itself. -/
theorem literal_quote (text : String) : Literal (quote text) (.string text) :=
  .string (spells_flatMap_escape text.toList)

/-! ## Inside arrays and objects -/

@[simp]
theorem toList_text (value : Json) : value.text.toList = value.characters :=
  String.toList_ofList

theorem characters_array_append (items : List Json) (text : List Char) :
    (array items).characters ++ text = '[' :: (itemsCharacters items ++ ']' :: text) := by
  simp [characters]

theorem characters_object_append (fields : List (String × Json)) (text : List Char) :
    (object fields).characters ++ text =
      '\x7b' :: (fieldsCharacters fields ++ '\x7d' :: text) := by
  simp [characters]

theorem itemsCharacters_singleton (item : Json) : itemsCharacters [item] = item.characters := by
  rw [itemsCharacters]

theorem itemsCharacters_cons_cons (item next : Json) (items : List Json) :
    itemsCharacters (item :: next :: items) =
      item.characters ++ ',' :: itemsCharacters (next :: items) := by
  rw [itemsCharacters]
  simp

theorem fieldsCharacters_singleton (name : String) (value : Json) :
    fieldsCharacters [(name, value)] = quote name ++ ':' :: value.characters := by
  rw [fieldsCharacters]

theorem fieldsCharacters_cons_cons (name : String) (value : Json) (next : String × Json)
    (fields : List (String × Json)) :
    fieldsCharacters ((name, value) :: next :: fields) =
      quote name ++ ':' :: (value.characters ++ ',' :: fieldsCharacters (next :: fields)) := by
  rw [fieldsCharacters]
  · simp
  · simp

/-- The text of a field: its name as a string, and its value. -/
def fieldText (field : String × Json) : String :=
  (string field.1).text ++ ":" ++ field.2.text

theorem toList_fieldText (name : String) (value : Json) :
    (fieldText (name, value)).toList = quote name ++ ':' :: value.characters := by
  simp [fieldText, characters]

theorem itemsCharacters_eq (items : List Json) :
    itemsCharacters items = [','].intercalate (items.map characters) := by
  induction items with
  | nil => rfl
  | cons item items induction =>
      cases items with
      | nil => simp [itemsCharacters_singleton]
      | cons next items =>
          simp only [List.map_cons] at induction ⊢
          rw [List.intercalate_cons_cons, ← induction, itemsCharacters_cons_cons]
          simp

theorem fieldsCharacters_eq (fields : List (String × Json)) :
    fieldsCharacters fields =
      [','].intercalate (fields.map fun field => (fieldText field).toList) := by
  induction fields with
  | nil => rfl
  | cons field fields induction =>
      obtain ⟨name, value⟩ := field
      cases fields with
      | nil => simp [fieldsCharacters_singleton, toList_fieldText]
      | cons next fields =>
          simp only [List.map_cons] at induction ⊢
          rw [List.intercalate_cons_cons, ← induction, fieldsCharacters_cons_cons, toList_fieldText]
          simp

/-- An array is rendered as the texts of its items between commas. -/
theorem rendered_array (items : List Json) :
    (array items).rendered = "[" ++ ",".intercalate (items.map text) ++ "]" := by
  apply String.toList_inj.1
  simp [rendered, characters, itemsCharacters_eq, String.toList_intercalate, Function.comp_def]

/-- An object is rendered as the texts of its fields between commas. -/
theorem rendered_object (fields : List (String × Json)) :
    (object fields).rendered = "\x7b" ++ ",".intercalate (fields.map fieldText) ++ "\x7d" := by
  apply String.toList_inj.1
  simp [rendered, characters, fieldsCharacters_eq, String.toList_intercalate, Function.comp_def]

/-! ## The strings in a text -/

/-- Whether strings are those of the literals in a text, in order.  Outside the literals there is no
quote. -/
inductive Quotes : List Char → List String → Prop
  | nil : Quotes [] []
  | outside {character : Char} {text : List Char} {strings : List String}
      (notQuote : character ≠ '"') (rest : Quotes text strings) : Quotes (character :: text) strings
  | literal {body text : List Char} {string : String} {strings : List String}
      (spells : Spells body (utf16 string.toList)) (rest : Quotes text strings) :
      Quotes ('"' :: (body ++ '"' :: text)) (string :: strings)

/-- The strings in a text are determined by it. -/
theorem Quotes.unique {text : List Char} {strings others : List String}
    (first : Quotes text strings) (second : Quotes text others) : strings = others := by
  induction first generalizing others with
  | nil =>
      cases second
      rfl
  | outside notQuote rest induction =>
      cases second with
      | outside _ others => exact induction others
      | literal => exact absurd rfl notQuote
  | @literal body text string strings spells rest induction =>
      generalize shape : '"' :: (body ++ '"' :: text) = whole at second
      cases second with
      | nil => cases shape
      | outside notQuote => exact absurd (List.cons.inj shape).1.symm notQuote
      | @literal otherBody otherText otherString others otherSpells otherRest =>
          have read := readString_of_spells spells text
          rw [(List.cons.inj shape).2, readString_of_spells otherSpells] at read
          obtain ⟨same, rfl⟩ := Prod.mk.inj (Option.some.inj read)
          rw [String.toList_inj.1 same, induction otherRest]

theorem Quotes.append_left {before text : List Char} {strings : List String}
    (noQuote : '"' ∉ before) (rest : Quotes text strings) : Quotes (before ++ text) strings := by
  induction before with
  | nil => exact rest
  | cons character before induction =>
      obtain ⟨notQuote, others⟩ := not_or.1 (mt List.mem_cons.2 noQuote)
      exact .outside (Ne.symm notQuote) (induction others)

theorem quotes_quote (string : String) {text : List Char} {strings : List String}
    (rest : Quotes text strings) : Quotes (quote string ++ text) (string :: strings) := by
  rw [quote_append]
  exact .literal (spells_flatMap_escape string.toList) rest

mutual

/-- The strings in a value, names of fields among them, in the order in which they are written. -/
def strings : Json → List String
  | string text => [text]
  | array items => itemsStrings items
  | object fields => fieldsStrings fields
  | _ => []

/-- The strings in the values of an array. -/
def itemsStrings : List Json → List String
  | [] => []
  | item :: items => item.strings ++ itemsStrings items

/-- The names and the strings in the values of the fields of an object. -/
def fieldsStrings : List (String × Json) → List String
  | [] => []
  | (name, value) :: fields => name :: (value.strings ++ fieldsStrings fields)

end

theorem not_mem_toDigits (size : Nat) : '"' ∉ Nat.toDigits 10 size := by
  intro inside
  exact absurd (Nat.isDigit_of_mem_toDigits (by decide) (by decide) inside) (by decide)

theorem not_mem_sign (negative : Bool) : '"' ∉ Decimal.sign negative := by
  cases negative <;> decide

theorem not_mem_positional (keepsPoint : Bool) (decimal : Decimal) :
    '"' ∉ Decimal.positional keepsPoint decimal := by
  have digits := not_mem_toDigits decimal.digits
  unfold Decimal.positional
  split_ifs
  · simp [digits]
  · simp [digits]
  · have padded (zeros : Nat) :
        '"' ∉ List.replicate zeros '0' ++ Nat.toDigits 10 decimal.digits := by
      simp [digits]
    intro inside
    rcases List.mem_append.1 inside with before | after
    · exact padded _ (List.mem_of_mem_take before)
    · have places := (List.mem_cons.1 after).resolve_left (by decide)
      exact padded _ (List.mem_of_mem_drop places)

theorem not_mem_scientific (decimal : Decimal) : '"' ∉ Decimal.scientific decimal := by
  have exponent := not_mem_toDigits decimal.leadingExponent.natAbs
  have mark : '"' ∉ (if decimal.leadingExponent < 0 then ['e', '-'] else ['e', '+']) := by
    split_ifs <;> decide
  have digits := not_mem_toDigits decimal.digits
  unfold Decimal.scientific
  split
  next => simp
  next digit shape =>
    rw [shape] at digits
    simp_all
  next digit others _ shape =>
    rw [shape] at digits
    simp_all

/-- There is no quote in a number. -/
theorem not_mem_write (value : Number) : '"' ∉ value.write := by
  cases value with
  | integer value => simp [Number.write, integerText, not_mem_toDigits, not_mem_sign]
  | real value =>
      cases value with
      | finite negative mantissa exponent =>
          simp only [Number.write, Binary64.write, Decimal.Style.write, List.mem_append, not_or]
          refine ⟨not_mem_sign _, ?_⟩
          split_ifs
          · exact not_mem_positional _ _
          · exact not_mem_scientific _
      | infinite negative => simp [Number.write, Binary64.write, not_mem_sign]
      | undefined => simp [Number.write, Binary64.write]

mutual

/-- The literals in the text of a value are those of its strings. -/
theorem quotes_characters (value : Json) {text : List Char} {others : List String}
    (rest : Quotes text others) : Quotes (value.characters ++ text) (value.strings ++ others) := by
  cases value with
  | null => exact .append_left (by decide) rest
  | boolean value => cases value <;> exact .append_left (by decide) rest
  | number value => exact .append_left (not_mem_write value) rest
  | string string => exact quotes_quote string rest
  | array items =>
      have inside := quotes_itemsCharacters items (.outside (by decide : ']' ≠ '"') rest)
      rw [characters_array_append]
      exact .outside (by decide) inside
  | object fields =>
      have inside := quotes_fieldsCharacters fields (.outside (by decide : '\x7d' ≠ '"') rest)
      rw [characters_object_append]
      exact .outside (by decide) inside

theorem quotes_itemsCharacters (items : List Json) {text : List Char} {others : List String}
    (rest : Quotes text others) :
    Quotes (itemsCharacters items ++ text) (itemsStrings items ++ others) := by
  cases items with
  | nil => exact rest
  | cons item items =>
      rw [itemsStrings, List.append_assoc]
      cases items with
      | nil =>
          rw [itemsCharacters_singleton]
          exact quotes_characters item rest
      | cons next items =>
          have after := quotes_itemsCharacters (next :: items) rest
          rw [itemsCharacters_cons_cons, List.append_assoc]
          exact quotes_characters item (.outside (by decide) after)

theorem quotes_fieldsCharacters (fields : List (String × Json)) {text : List Char}
    {others : List String} (rest : Quotes text others) :
    Quotes (fieldsCharacters fields ++ text) (fieldsStrings fields ++ others) := by
  cases fields with
  | nil => exact rest
  | cons field fields =>
      obtain ⟨name, value⟩ := field
      rw [fieldsStrings, List.cons_append, List.append_assoc]
      cases fields with
      | nil =>
          rw [fieldsCharacters_singleton, List.append_assoc]
          exact quotes_quote name (.outside (by decide) (quotes_characters value rest))
      | cons next fields =>
          have after := quotes_fieldsCharacters (next :: fields) rest
          have inside := quotes_characters value (.outside (by decide : ',' ≠ '"') after)
          rw [fieldsCharacters_cons_cons, List.append_assoc, List.cons_append, List.append_assoc]
          exact quotes_quote name (.outside (by decide) inside)

end

end Json
end Stencil
