import Stencil.Text.Unprintable

/-!
# Quoted text

In a message a text stands between quotes.  Quotes, backslashes and control characters are escaped,
and so is every character that would not be seen on its own.
-/

namespace Stencil
namespace Text

/-- The escape that gives the code point of a character in hexadecimal digits. -/
def codePointEscape (character : Char) : List Char :=
  '\\' :: 'u' :: '{' :: Nat.toDigits 16 character.toNat ++ ['}']

/-- A character inside quotes. -/
def escape (character : Char) : List Char :=
  if character = '"' then ['\\', '"']
  else if character = '\\' then ['\\', '\\']
  else if character = '\n' then ['\\', 'n']
  else if character = '\r' then ['\\', 'r']
  else if character = '\t' then ['\\', 't']
  else if character = '\x00' then ['\\', '0']
  else if isUnprintable character || isExtending character then codePointEscape character
  else [character]

/-- A text between quotes. -/
def quoted (text : String) : String :=
  String.ofList ('"' :: text.toList.flatMap escape ++ ['"'])

end Text
end Stencil
