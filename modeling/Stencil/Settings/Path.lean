import Stencil.Settings.Entry

/-!
# Paths

The key of an entry is a path to its place: names separated by points, and indices in brackets.  A
key that is no path is one name.  Names are in lower case.
-/

namespace Stencil

/-- A step of a path. -/
inductive PathStep where
  /-- To the field with a name. -/
  | name (name : String)
  /-- To the item at an index, which counts from the end when negative. -/
  | index (index : Int)
deriving DecidableEq, Repr

/-- The way to a place in a tree of entries. -/
abbrev Path := List PathStep

namespace Path

/-- Whether a character may stand in a name of a path. -/
def isNameCharacter (character : Char) : Bool :=
  character.isAlphanum || character = '_' || character = '-' || character = ' '

/-- Reads a name. -/
def readName (text : List Char) : Option (PathStep × List Char) :=
  let name := text.takeWhile isNameCharacter
  if name.isEmpty then none
  else some (.name (Text.lower (String.ofList name)), text.dropWhile isNameCharacter)

/-- The characters after leading spaces and tabs. -/
def skipBlank (text : List Char) : List Char :=
  text.dropWhile fun character => character = ' ' || character = '\t'

/-- Reads a minus sign, if there is one. -/
def readMinus : List Char → Bool × List Char
  | '-' :: text => (true, text)
  | text => (false, text)

/-- Reads an index of 64 bits, which may have spaces and tabs around it, and the bracket after
it. -/
def readIndex (text : List Char) : Option (PathStep × List Char) :=
  let (negative, unsigned) := readMinus (skipBlank text)
  let digits := unsigned.takeWhile Char.isDigit
  let size : Int := (Nat.ofDigitChars 10 digits 0 : Nat)
  let index := if negative then -size else size
  match skipBlank (unsigned.dropWhile Char.isDigit) with
  | ']' :: rest =>
    if digits.isEmpty || !Scalar.isInRange index then none else some (.index index, rest)
  | _ => none

/-- Reads the steps after the first with at most `fuel` of them. -/
def readSteps : (fuel : Nat) → List Char → Option Path
  | _, [] => some []
  | 0, _ => none
  | fuel + 1, mark :: text => do
    let (step, rest) ←
      if mark = '.' then readName text
      else if mark = '[' then readIndex text
      else none
    let steps ← readSteps fuel rest
    return step :: steps

/-- Reads a whole key as a path. -/
def read? (text : List Char) : Option Path := do
  let (step, rest) ← readName text
  let steps ← readSteps text.length rest
  return step :: steps

/-- The path of a key. -/
def ofKey (key : String) : Path :=
  (read? key.toList).getD [.name (Text.lower key)]

end Path

namespace Entry

/-- Puts an entry at the end of a path.  What stands in the way is replaced by tables and arrays. -/
def setAt (value : Entry) : Path → (target : Entry) → Entry
  | [], _ => value
  | [.name name], target => merge name value target
  | .name name :: path, target =>
    target.put name (setAt value path ((target.get? name).getD null))
  | .index index :: path, target =>
    let place := place target.items.length index
    target.putAt place (setAt value path (target.items[place]?.getD null))

end Entry
end Stencil
