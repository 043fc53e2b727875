import Stencil.Decimal.Style
import Stencil.Json.Basic

/-!
# Writing JSON

Values are written without any space.  In strings the quote, the backslash and the characters below
the space are escaped, and nothing else.
-/

namespace Stencil
namespace Json

/-- Numbers are positional from `0.00001` up to sixteen digits before the point, whole numbers keep
`.0`, and of two equally near numerals the even one is taken. -/
def style : Decimal.Style where
  isPositional exponent := -5 ≤ exponent && exponent ≤ 15
  keepsPoint := true
  tie := .even

/-- An integer in decimal digits. -/
def integerText (value : Int) : List Char :=
  Decimal.sign (value < 0) ++ Nat.toDigits 10 value.natAbs

namespace Number

/-- The text of a number. -/
def write : Number → List Char
  | integer value => integerText value
  | real value => value.write style

end Number

/-- A character inside a string. -/
def escape (character : Char) : List Char :=
  if character = '"' then ['\\', '"']
  else if character = '\\' then ['\\', '\\']
  else if character = '\x08' then ['\\', 'b']
  else if character = '\x0c' then ['\\', 'f']
  else if character = '\n' then ['\\', 'n']
  else if character = '\r' then ['\\', 'r']
  else if character = '\t' then ['\\', 't']
  else if character.toNat < 0x20 then
    ['\\', 'u', '0', '0', (character.toNat / 16).digitChar, (character.toNat % 16).digitChar]
  else [character]

/-- A string between quotes. -/
def quote (text : String) : List Char :=
  '"' :: text.toList.flatMap escape ++ ['"']

mutual

/-- The characters of a value. -/
def characters : Json → List Char
  | null => ['n', 'u', 'l', 'l']
  | boolean true => ['t', 'r', 'u', 'e']
  | boolean false => ['f', 'a', 'l', 's', 'e']
  | number value => value.write
  | string text => quote text
  | array items => '[' :: itemsCharacters items ++ [']']
  | object fields => '{' :: fieldsCharacters fields ++ ['}']

/-- The characters of the values of an array. -/
def itemsCharacters : List Json → List Char
  | [] => []
  | [item] => item.characters
  | item :: items => item.characters ++ ',' :: itemsCharacters items

/-- The characters of the fields of an object. -/
def fieldsCharacters : List (String × Json) → List Char
  | [] => []
  | [(name, value)] => quote name ++ ':' :: value.characters
  | (name, value) :: fields =>
    quote name ++ ':' :: value.characters ++ ',' :: fieldsCharacters fields

end

/-- The text of a value. -/
def text (value : Json) : String :=
  String.ofList value.characters

end Json
end Stencil
