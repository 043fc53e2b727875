import Stencil.Json.Basic

/-!
# Reading JSON

The reader accepts exactly the texts of the JSON grammar, of any depth, whose escapes denote
characters and whose numbers are not too large.  Each reading function returns what it has read and
the characters that follow it.
-/

namespace Stencil
namespace Json

/-- Whether a character may stand between the tokens of a text. -/
def isSpace (character : Char) : Bool :=
  character = ' ' || character = '\t' || character = '\n' || character = '\r'

/-- The characters after leading space. -/
def skipSpace (text : List Char) : List Char :=
  text.dropWhile isSpace

/-- The value of a hexadecimal digit. -/
def hexDigit? (character : Char) : Option Nat :=
  if '0' ≤ character ∧ character ≤ '9' then some (character.toNat - '0'.toNat)
  else if 'a' ≤ character ∧ character ≤ 'f' then some (character.toNat - 'a'.toNat + 10)
  else if 'A' ≤ character ∧ character ≤ 'F' then some (character.toNat - 'A'.toNat + 10)
  else none

/-- The value of four hexadecimal digits. -/
def codeUnit? (first second third fourth : Char) : Option Nat := do
  let first ← hexDigit? first
  let second ← hexDigit? second
  let third ← hexDigit? third
  let fourth ← hexDigit? fourth
  return ((first * 16 + second) * 16 + third) * 16 + fourth

/-- Whether a code unit is the first half of a pair. -/
def isLeading (unit : Nat) : Bool :=
  0xD800 ≤ unit && unit < 0xDC00

/-- Whether a code unit is the second half of a pair. -/
def isTrailing (unit : Nat) : Bool :=
  0xDC00 ≤ unit && unit < 0xE000

/-- The character that a letter after a backslash stands for. -/
def escaped? (letter : Char) : Option Char :=
  if letter = '"' || letter = '\\' || letter = '/' then some letter
  else if letter = 'b' then some '\x08'
  else if letter = 'f' then some '\x0c'
  else if letter = 'n' then some '\n'
  else if letter = 'r' then some '\r'
  else if letter = 't' then some '\t'
  else none

/-- Reads the characters of a string up to its closing quote. -/
def readString : List Char → Option (List Char × List Char)
  | '\\' :: 'u' :: first :: second :: third :: fourth :: text =>
    match codeUnit? first second third fourth with
    | none => none
    | some unit =>
      if isTrailing unit then none
      else if isLeading unit then
        match text with
        | '\\' :: 'u' :: first :: second :: third :: fourth :: text =>
          match codeUnit? first second third fourth with
          | none => none
          | some trailing =>
            if isTrailing trailing then
              (readString text).map fun (read, rest) =>
                (Char.ofNat (0x10000 + (unit - 0xD800) * 0x400 + (trailing - 0xDC00)) :: read, rest)
            else none
        | _ => none
      else (readString text).map fun (read, rest) => (Char.ofNat unit :: read, rest)
  | '\\' :: letter :: text =>
    match escaped? letter with
    | none => none
    | some character => (readString text).map fun (read, rest) => (character :: read, rest)
  | character :: text =>
    if character = '"' then some ([], text)
    else if character = '\\' || character.toNat < 0x20 then none
    else (readString text).map fun (read, rest) => (character :: read, rest)
  | [] => none

/-- Splits a text after its leading digits. -/
def spanDigits (text : List Char) : List Char × List Char :=
  (text.takeWhile Char.isDigit, text.dropWhile Char.isDigit)

/-- Reads the digits before the point: a zero alone, or digits that do not start with zero. -/
def readWhole (text : List Char) : Option (List Char × List Char) :=
  match spanDigits text with
  | ([], _) => none
  | (['0'], rest) => some (['0'], rest)
  | ('0' :: _, _) => none
  | (digits, rest) => some (digits, rest)

/-- Reads a point and the digits after it, if there is a point. -/
def readFraction : List Char → Option (Option (List Char) × List Char)
  | '.' :: text =>
    match spanDigits text with
    | ([], _) => none
    | (digits, rest) => some (some digits, rest)
  | text => some (none, text)

/-- Reads the exponent of a number, if there is one. -/
def readExponent : List Char → Option (Option Int × List Char)
  | character :: text =>
    if character = 'e' || character = 'E' then
      let (negative, text) :=
        match text with
        | '-' :: text => (true, text)
        | '+' :: text => (false, text)
        | text => (false, text)
      match spanDigits text with
      | ([], _) => none
      | (digits, rest) =>
        let size : Int := (Nat.ofDigitChars 10 digits 0 : Nat)
        some (some (if negative then -size else size), rest)
    else some (none, character :: text)
  | [] => some (none, [])

/-- The number with the given parts, unless it is too large. -/
def numberOf? (negative : Bool) (whole : List Char) (fraction : Option (List Char))
    (exponent : Option Int) : Option Number :=
  let size : Int := (Nat.ofDigitChars 10 whole 0 : Nat)
  let value := if negative then -size else size
  if fraction.isNone && exponent.isNone && Number.isExact value && !(negative && size = 0) then
    some (.integer value)
  else
    let places := fraction.getD []
    let decimal : Decimal :=
      ⟨negative, Nat.ofDigitChars 10 (whole ++ places) 0, exponent.getD 0 - (places.length : Int)⟩
    match Binary64.ofDecimal decimal with
    | .finite negative mantissa exponent => some (.real (.finite negative mantissa exponent))
    | _ => none

/-- Reads a number. -/
def readNumber (text : List Char) : Option (Number × List Char) := do
  let (negative, text) :=
    match text with
    | '-' :: text => (true, text)
    | text => (false, text)
  let (whole, text) ← readWhole text
  let (fraction, text) ← readFraction text
  let (exponent, text) ← readExponent text
  let number ← numberOf? negative whole fraction exponent
  return (number, text)

mutual

/-- Reads a value with at most `fuel` nested calls. -/
def readValue : (fuel : Nat) → List Char → Option (Json × List Char)
  | 0, _ => none
  | fuel + 1, text =>
    match skipSpace text with
    | '"' :: text => (readString text).map fun (read, rest) => (.string (String.ofList read), rest)
    | 'n' :: 'u' :: 'l' :: 'l' :: text => some (.null, text)
    | 't' :: 'r' :: 'u' :: 'e' :: text => some (.boolean true, text)
    | 'f' :: 'a' :: 'l' :: 's' :: 'e' :: text => some (.boolean false, text)
    | '[' :: text =>
      match skipSpace text with
      | ']' :: text => some (.array [], text)
      | text => (readItems fuel text).map fun (items, rest) => (.array items, rest)
    | '{' :: text =>
      match skipSpace text with
      | '}' :: text => some (.object [], text)
      | text => (readFields fuel text).map fun (fields, rest) => (.ofPairs fields, rest)
    | text => (readNumber text).map fun (value, rest) => (.number value, rest)

/-- Reads the values of an array that has one, and the closing bracket. -/
def readItems : (fuel : Nat) → List Char → Option (List Json × List Char)
  | 0, _ => none
  | fuel + 1, text =>
    match readValue fuel text with
    | none => none
    | some (item, text) =>
      match skipSpace text with
      | ',' :: text => (readItems fuel text).map fun (items, rest) => (item :: items, rest)
      | ']' :: text => some ([item], text)
      | _ => none

/-- Reads the fields of an object that has one, and the closing brace. -/
def readFields : (fuel : Nat) → List Char → Option (List (String × Json) × List Char)
  | 0, _ => none
  | fuel + 1, text =>
    match skipSpace text with
    | '"' :: text =>
      match readString text with
      | none => none
      | some (name, text) =>
        match skipSpace text with
        | ':' :: text =>
          match readValue fuel text with
          | none => none
          | some (value, text) =>
            let field := (String.ofList name, value)
            match skipSpace text with
            | ',' :: text =>
              (readFields fuel text).map fun (fields, rest) => (field :: fields, rest)
            | '}' :: text => some ([field], text)
            | _ => none
        | _ => none
    | _ => none

end

/-- Reads a whole text as one value, with space around it. -/
def read? (text : List Char) : Option Json :=
  match readValue (2 * text.length + 1) text with
  | some (value, rest) => if (skipSpace rest).isEmpty then some value else none
  | none => none

/-- The value that a text denotes, if it is a JSON text. -/
def ofText? (text : String) : Option Json :=
  read? text.toList

end Json
end Stencil
