import Stencil.Decimal.Reader
import Stencil.Toml.Basic
import Stencil.Toml.Text

/-!
# Numbers, dates and words in TOML

A value without quotes or brackets is a truth value, a number, a date, a time or both.  Single
underscores may stand between the digits of a number.
-/

namespace Stencil
namespace Toml

/-- Reads digits, with single underscores between them.  `after` says whether a digit stands before
the text. -/
def readDigits (isDigit : Char → Bool) : (after : Bool) → List Char → List Char × List Char
  | _, [] => ([], [])
  | true, '_' :: next :: text =>
    if isDigit next then
      let (digits, rest) := readDigits isDigit true text
      (next :: digits, rest)
    else ([], '_' :: next :: text)
  | _, character :: text =>
    if isDigit character then
      let (digits, rest) := readDigits isDigit true text
      (character :: digits, rest)
    else ([], character :: text)

/-- The number that digits of a base denote, if they are the whole text. -/
def based? (base : Nat) (text : List Char) : Option Int :=
  let isDigit (character : Char) : Bool :=
    match Json.hexDigit? character with
    | some digit => digit < base
    | none => false
  match readDigits isDigit false text with
  | ([], _) => none
  | (digits, []) =>
    some (digits.foldl (fun value digit => value * base + (Json.hexDigit? digit).getD 0) 0 : Nat)
  | _ => none

/-- The integer that a text denotes. -/
def integer? (text : List Char) : Option Int :=
  match text with
  | '0' :: 'x' :: digits => based? 16 digits
  | '0' :: 'o' :: digits => based? 8 digits
  | '0' :: 'b' :: digits => based? 2 digits
  | text =>
    let (negative, unsigned) := Decimal.readSign text
    match readDigits Char.isDigit false unsigned with
    | ('0' :: _ :: _, _) => none
    | ([], _) => none
    | (digits, []) =>
      let size : Int := (Nat.ofDigitChars 10 digits 0 : Nat)
      some (if negative then -size else size)
    | _ => none

/-- The exponent that a text denotes. -/
def exponent? (text : List Char) : Option Int :=
  let (negative, unsigned) := Decimal.readSign text
  match readDigits Char.isDigit false unsigned with
  | ([], _) => none
  | (digits, []) =>
    let size : Int := (Nat.ofDigitChars 10 digits 0 : Nat)
    some (if negative then -size else size)
  | _ => none

/-- The numeral with a point or an exponent that follows the given digits. -/
def numeral? (negative : Bool) (whole : List Char) : List Char → Option Decimal
  | [] => none
  | mark :: text =>
    if mark = '.' then
      match readDigits Char.isDigit false text with
      | ([], _) => none
      | (places, rest) =>
        let decimal (exponent : Int) : Decimal :=
          ⟨negative, Nat.ofDigitChars 10 (whole ++ places) 0, exponent - (places.length : Int)⟩
        match rest with
        | [] => some (decimal 0)
        | mark :: text =>
          if mark = 'e' || mark = 'E' then (exponent? text).map decimal else none
    else if mark = 'e' || mark = 'E' then
      (exponent? text).map fun exponent => ⟨negative, Nat.ofDigitChars 10 whole 0, exponent⟩
    else none

/-- The number that a text denotes.  A number may not be too large. -/
def real? (text : List Char) : Option Binary64 :=
  let (negative, unsigned) := Decimal.readSign text
  if unsigned = "inf".toList then some (.infinite negative)
  else if unsigned = "nan".toList then some .undefined
  else
    match readDigits Char.isDigit false unsigned with
    | ('0' :: _ :: _, _) => none
    | ([], _) => none
    | (whole, rest) =>
      match (numeral? negative whole rest).map Binary64.ofDecimal with
      | some (.infinite false) => none
      | number => number

/-- The value that a word denotes. -/
def word? (word : List Char) : Option Toml :=
  if word = "true".toList then some (.scalar (.boolean true))
  else if word = "false".toList then some (.scalar (.boolean false))
  else
    match integer? word with
    | some value => if Scalar.isInRange value then some (.scalar (.integer value)) else none
    | none =>
      match real? word with
      | some value => some (.scalar (.real value))
      | none => (Calendar.text? word).map .calendar

/-- Whether a character may stand in a word. -/
def isWordCharacter (character : Char) : Bool :=
  character.isAlphanum || character = '+' || character = '-' || character = '_' ||
    character = '.' || character = ':'

/-- Splits a word off a text.  A date and a time with a space between them are one word. -/
def splitWord (text : List Char) : List Char × List Char :=
  let word := text.takeWhile isWordCharacter
  let rest := text.dropWhile isWordCharacter
  match Calendar.readDate word, rest with
  | some (_, []), ' ' :: after =>
    if (Calendar.readNumber 2 after).isSome && (after.drop 2).head? = some ':' then
      (word ++ ' ' :: after.takeWhile isWordCharacter, after.dropWhile isWordCharacter)
    else (word, rest)
  | _, _ => (word, rest)

/-- Reads a word. -/
def readWord (text : List Char) : Option (Toml × List Char) :=
  let (word, rest) := splitWord text
  (word? word).map fun value => (value, rest)

end Toml
end Stencil
