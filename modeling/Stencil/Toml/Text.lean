import Stencil.Json.Reader

/-!
# Keys and texts in TOML

A text stands between single quotes as it is, or between double quotes with escapes, and between
three quotes it may have several lines.  A key is a word or a text on one line.
-/

namespace Stencil
namespace Toml

/-- Whether a character is a space or a tab. -/
def isBlank (character : Char) : Bool :=
  character = ' ' || character = '\t'

/-- The characters after leading spaces and tabs. -/
def skipBlank (text : List Char) : List Char :=
  text.dropWhile isBlank

/-- Whether a character may stand in a comment or between quotes. -/
def isVisible (character : Char) : Bool :=
  character = '\t' || (0x20 ≤ character.toNat && character.toNat ≠ 0x7F)

/-- The characters after a line break, if there is one. -/
def lineBreak? : List Char → Option (List Char)
  | '\n' :: text => some text
  | '\r' :: '\n' :: text => some text
  | _ => none

/-- The number with the given hexadecimal digits. -/
def hexadecimal? (digits : List Char) : Option Nat :=
  digits.foldlM (fun value digit => (Json.hexDigit? digit).map (value * 16 + ·)) 0

/-- The character with a code point. -/
def character? (code : Nat) : Option Char :=
  if code < 0xD800 ∨ (0xE000 ≤ code ∧ code < 0x110000) then some (Char.ofNat code) else none

/-- Reads a code point of a number of digits. -/
def readCode (count : Nat) (text : List Char) : Option (Char × List Char) :=
  if text.length < count then none
  else do
    let code ← hexadecimal? (text.take count)
    let character ← character? code
    return (character, text.drop count)

/-- Reads what follows a backslash. -/
def readEscape : List Char → Option (Char × List Char)
  | [] => none
  | letter :: text =>
    if letter = 'b' then some ('\x08', text)
    else if letter = 't' then some ('\t', text)
    else if letter = 'n' then some ('\n', text)
    else if letter = 'f' then some ('\x0c', text)
    else if letter = 'r' then some ('\r', text)
    else if letter = '"' || letter = '\\' then some (letter, text)
    else if letter = 'u' then readCode 4 text
    else if letter = 'U' then readCode 8 text
    else none

/-- Reads the rest of a text on one line, with at most `fuel` characters. -/
def readLine (quote : Char) : (fuel : Nat) → List Char → Option (List Char × List Char)
  | 0, _ => none
  | _, [] => none
  | fuel + 1, character :: text =>
    if character = quote then some ([], text)
    else if character = '\\' ∧ quote = '"' then do
      let (escaped, text) ← readEscape text
      let (read, rest) ← readLine quote fuel text
      return (escaped :: read, rest)
    else if isVisible character then
      (readLine quote fuel text).map fun (read, rest) => (character :: read, rest)
    else none

/-- The characters after spaces, tabs and line breaks. -/
def skipSpace : List Char → List Char
  | '\r' :: '\n' :: text => skipSpace text
  | character :: text =>
    if isBlank character || character = '\n' then skipSpace text else character :: text
  | [] => []

/-- The characters after a backslash that ends a line, if it ends one. -/
def lineContinuation? (text : List Char) : Option (List Char) :=
  (lineBreak? (skipBlank text)).map skipSpace

/-- Reads the rest of a text of several lines, with at most `fuel` steps. -/
def readLines (quote : Char) : (fuel : Nat) → List Char → Option (List Char × List Char)
  | 0, _ => none
  | _, [] => none
  | fuel + 1, character :: text =>
    if character = quote then
      let run := (character :: text).takeWhile (· = quote)
      let after := (character :: text).dropWhile (· = quote)
      if run.length < 3 then
        (readLines quote fuel after).map fun (read, rest) => (run ++ read, rest)
      else some ((run.take 5).drop 3, run.drop 5 ++ after)
    else if character = '\\' ∧ quote = '"' then
      match lineContinuation? text with
      | some text => readLines quote fuel text
      | none => do
        let (escaped, text) ← readEscape text
        let (read, rest) ← readLines quote fuel text
        return (escaped :: read, rest)
    else
      match lineBreak? (character :: text) with
      | some text => (readLines quote fuel text).map fun (read, rest) => ('\n' :: read, rest)
      | none =>
        if isVisible character then
          (readLines quote fuel text).map fun (read, rest) => (character :: read, rest)
        else none

/-- Reads a text after its opening quote, of which there may be three. -/
def readText (quote : Char) (text : List Char) : Option (List Char × List Char) :=
  if text.take 2 = [quote, quote] then
    let text := text.drop 2
    readLines quote (text.length + 1) ((lineBreak? text).getD text)
  else readLine quote (text.length + 1) text

/-- Whether a character may stand in a key without quotes. -/
def isBare (character : Char) : Bool :=
  character.isAlphanum || character = '_' || character = '-'

/-- Reads a key without points. -/
def readSimpleKey (text : List Char) : Option (String × List Char) :=
  match text with
  | [] => none
  | first :: rest =>
    if first = '"' || first = '\'' then
      (readLine first (rest.length + 1) rest).map fun (read, rest) => (String.ofList read, rest)
    else
      let key := text.takeWhile isBare
      if key.isEmpty then none else some (String.ofList key, text.dropWhile isBare)

/-- Reads a key of at most `limit` parts with points between them. -/
def readParts : (limit : Nat) → List Char → Option (List String × List Char)
  | 0, _ => none
  | limit + 1, text => do
    let (key, rest) ← readSimpleKey (skipBlank text)
    match skipBlank rest with
    | '.' :: rest => (readParts limit rest).map fun (keys, rest) => (key :: keys, rest)
    | rest => return ([key], rest)

/-- The greatest number of parts of a key, and of arrays and tables around a value. -/
def depthLimit : Nat := 79

/-- Reads a key. -/
def readKey (text : List Char) : Option (List String × List Char) :=
  readParts depthLimit text

end Toml
end Stencil
