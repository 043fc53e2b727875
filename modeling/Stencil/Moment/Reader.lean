import Stencil.Moment.Basic
import Stencil.Moment.Calendar
import Stencil.Text.Blank

/-!
# Reading moments

A moment is read from a date, a time of day and an offset from UTC, or the letter `Z`, as in
`2024-01-02T03:04:05.5+01:00`.  White space may stand before each number and each mark, a number may
have fewer digits, and a space may separate date and time.
-/

namespace Stencil
namespace Moment

/-- Reads between one and `most` digits, after white space. -/
def readNumber (most : Nat) (text : List Char) : Option (Nat × List Char) :=
  let text := Text.trimStart text
  let digits := (text.take most).takeWhile Char.isDigit
  if digits.isEmpty then none
  else some (Nat.ofDigitChars 10 digits 0, text.drop digits.length)

/-- Reads a year: up to four digits, or a sign and any number of digits. -/
def readYear (text : List Char) : Option (Int × List Char) :=
  let signed (text : List Char) : Option (Nat × List Char) :=
    match text with
    | character :: _ => if character.isDigit then readNumber text.length text else none
    | [] => none
  match Text.trimStart text with
  | '-' :: text => (signed text).map fun (size, rest) => (-(size : Int), rest)
  | '+' :: text => (signed text).map fun (size, rest) => ((size : Int), rest)
  | text => (readNumber 4 text).map fun (size, rest) => ((size : Int), rest)

/-- Reads a mark, after white space. -/
def readMark (mark : Char) (text : List Char) : Option (List Char) :=
  match Text.trimStart text with
  | character :: text => if character = mark then some text else none
  | [] => none

/-- Reads a date. -/
def readDate (text : List Char) : Option (Date × List Char) := do
  let (year, text) ← readYear text
  let text ← readMark '-' text
  let (month, text) ← readNumber 2 text
  let text ← readMark '-' text
  let (day, text) ← readNumber 2 text
  return (⟨year, month, day⟩, text)

/-- Reads the one character between date and time. -/
def readSeparator : List Char → Option (List Char)
  | character :: text =>
    if character = 'T' || character = 't' || character = ' ' then some text else none
  | [] => none

/-- The nanoseconds that digits after a point stand for.  Digits after the ninth do not count. -/
def nanosecondOf (digits : List Char) : Nat :=
  Nat.ofDigitChars 10 ((digits ++ List.replicate 9 '0').take 9) 0

/-- Reads a fraction of a second, if there is one. -/
def readNanosecond : List Char → Option (Nat × List Char)
  | '.' :: text =>
    let digits := text.takeWhile Char.isDigit
    if digits.isEmpty then none
    else some (nanosecondOf digits, text.dropWhile Char.isDigit)
  | text => some (0, text)

/-- A time of day. -/
structure Clock where
  /-- The minute of the day. -/
  minute : Nat
  /-- The second of the minute, at most 60. -/
  second : Nat
  /-- The nanosecond of the second. -/
  nanosecond : Nat
deriving DecidableEq, Repr

/-- Reads a time of day. -/
def readClock (text : List Char) : Option (Clock × List Char) := do
  let (hour, text) ← readNumber 2 text
  let text ← readMark ':' text
  let (minute, text) ← readNumber 2 text
  let text ← readMark ':' text
  let (second, text) ← readNumber 2 text
  let (nanosecond, text) ← readNanosecond text
  if hour ≤ 23 ∧ minute ≤ 59 ∧ second ≤ 60 then
    return (⟨hour * 60 + minute, second, nanosecond⟩, text)
  else none

/-- Reads exactly two digits. -/
def readTwoDigits : List Char → Option (Nat × List Char)
  | first :: second :: text =>
    if first.isDigit && second.isDigit then some (Nat.ofDigitChars 10 [first, second] 0, text)
    else none
  | _ => none

/-- Reads hours and minutes of an offset, with colons and white space between them. -/
def readOffsetSize (text : List Char) : Option (Nat × List Char) := do
  let (hours, text) ← readTwoDigits text
  let (minutes, text) ← readTwoDigits (text.dropWhile fun character =>
    character = ':' || Text.isBlank character)
  if minutes ≤ 59 ∧ hours ≤ 23 then return (hours * 60 + minutes, text) else none

/-- Reads an offset from UTC in minutes, after white space. -/
def readOffset (text : List Char) : Option (Int × List Char) :=
  match Text.trimStart text with
  | first :: rest =>
    if ((first :: rest).take 3).map Char.toUpper = ['U', 'T', 'C'] then some (0, rest.drop 2)
    else if first = 'Z' || first = 'z' then some (0, rest)
    else if first = '+' then
      (readOffsetSize rest).map fun (size, rest) => ((size : Int), rest)
    else if first = '-' || first = '\u2212' then
      (readOffsetSize rest).map fun (size, rest) => (-(size : Int), rest)
    else none
  | [] => none

/-- The least year of a date. -/
def leastYear : Int := -262143

/-- The greatest year of a date. -/
def greatestYear : Int := 262142

/-- Whether a minute lies in a year that can be represented. -/
def inRange (minute : Int) : Bool :=
  (Date.mk leastYear 1 1).toDays * 1440 ≤ minute &&
    minute < (Date.mk (greatestYear + 1) 1 1).toDays * 1440

/-- The moment at which a clock with an offset shows a date and time. -/
def ofLocal? (date : Date) (clock : Clock) (offset : Int) : Option Moment :=
  let shown := date.toDays * 1440 + clock.minute
  if date.isValid && inRange shown && inRange (shown - offset) then
    some ⟨shown - offset, clock.second, clock.nanosecond⟩
  else none

/-- The moment that a text denotes. -/
def read? (text : List Char) : Option Moment := do
  let (date, text) ← readDate text
  let text ← readSeparator text
  let (clock, text) ← readClock text
  let (offset, text) ← readOffset text
  if (Text.trimStart text).isEmpty then ofLocal? date clock offset else none

/-- The moment that a text denotes. -/
def ofText? (text : String) : Option Moment :=
  read? text.toList

end Moment
end Stencil
