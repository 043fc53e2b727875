import Stencil.Decimal.Reader
import Stencil.Moment.Basic
import Stencil.Moment.Calendar

/-!
# Dates and times in TOML

A date, a time or both are kept as their text, which has a `T` between date and time, no zeros at
the end of the fraction, and an offset of whole hours and minutes.
-/

namespace Stencil
namespace Toml
namespace Calendar

/-- Reads a number of exactly `count` digits. -/
def readNumber (count : Nat) (text : List Char) : Option (Nat × List Char) :=
  let digits := text.take count
  if digits.length = count && digits.all Char.isDigit then
    some (Nat.ofDigitChars 10 digits 0, text.drop count)
  else none

/-- Reads a mark. -/
def readMark (mark : Char) : List Char → Option (List Char)
  | character :: text => if character = mark then some text else none
  | [] => none

/-- Reads a date. -/
def readDate (text : List Char) : Option (Date × List Char) := do
  let (year, text) ← readNumber 4 text
  let text ← readMark '-' text
  let (month, text) ← readNumber 2 text
  let text ← readMark '-' text
  let (day, text) ← readNumber 2 text
  let date : Date := ⟨year, month, day⟩
  if date.isValid then return (date, text) else none

/-- The text of a date. -/
def dateText (date : Date) : List Char :=
  paddedDigits 4 date.year.toNat ++ '-' :: paddedDigits 2 date.month ++
    '-' :: paddedDigits 2 date.day

/-- Reads a fraction of a second, if there is one, as its text without zeros at the end. -/
def readFraction : List Char → Option (List Char × List Char)
  | '.' :: text =>
    let digits := text.takeWhile Char.isDigit
    let significant := ((digits.take 9).reverse.dropWhile (· = '0')).reverse
    if digits.isEmpty then none
    else some (if significant.isEmpty then [] else '.' :: significant, text.dropWhile Char.isDigit)
  | text => some ([], text)

/-- The text of hours and minutes. -/
def minutesText (hours minutes : Nat) : List Char :=
  paddedDigits 2 hours ++ ':' :: paddedDigits 2 minutes

/-- Reads a time of day as its text. -/
def readTime (text : List Char) : Option (List Char × List Char) := do
  let (hour, text) ← readNumber 2 text
  let text ← readMark ':' text
  let (minute, text) ← readNumber 2 text
  let text ← readMark ':' text
  let (second, text) ← readNumber 2 text
  let (fraction, text) ← readFraction text
  if hour ≤ 23 ∧ minute ≤ 59 ∧ second ≤ 60 then
    return (minutesText hour minute ++ ':' :: paddedDigits 2 second ++ fraction, text)
  else none

/-- The text of an offset from UTC, if a text denotes one. -/
def offset? : List Char → Option (List Char)
  | [] => some []
  | mark :: text =>
    if (mark = 'Z' || mark = 'z') && text.isEmpty then some ['Z']
    else if mark = '+' || mark = '-' then do
      let (hours, text) ← readNumber 2 text
      let text ← readMark ':' text
      let (minutes, text) ← readNumber 2 text
      let sign := if mark = '-' && hours + minutes ≠ 0 then '-' else '+'
      if hours ≤ 23 ∧ minutes ≤ 59 ∧ text.isEmpty then return sign :: minutesText hours minutes
      else none
    else none

/-- The text of a date, a time or both, if a text denotes them. -/
def text? (text : List Char) : Option (List Char) :=
  match readDate text with
  | none => do
    let (time, rest) ← readTime text
    if rest.isEmpty then return time else none
  | some (date, []) => some (dateText date)
  | some (date, mark :: text) =>
    if mark = 'T' || mark = 't' || mark = ' ' then do
      let (time, rest) ← readTime text
      let offset ← offset? rest
      return dateText date ++ 'T' :: time ++ offset
    else none

end Calendar
end Toml
end Stencil
