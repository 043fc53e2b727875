import Stencil.Moment.Basic
import Stencil.Moment.Calendar

/-!
# Writing moments

A moment is written as date and time of day in UTC.  The fraction of the second has none, three, six
or nine digits, the fewest that are exact.  Years outside the four digits have a sign.
-/

namespace Stencil
namespace Moment

/-- A year in four digits, or with a sign and at least four digits. -/
def yearText (year : Int) : List Char :=
  if 0 ≤ year ∧ year ≤ 9999 then paddedDigits 4 year.natAbs
  else (if year < 0 then '-' else '+') :: paddedDigits 4 year.natAbs

/-- The fraction of a second. -/
def fractionText (nanosecond : Nat) : List Char :=
  if nanosecond = 0 then []
  else if nanosecond % 1000000 = 0 then '.' :: paddedDigits 3 (nanosecond / 1000000)
  else if nanosecond % 1000 = 0 then '.' :: paddedDigits 6 (nanosecond / 1000)
  else '.' :: paddedDigits 9 nanosecond

/-- The characters of a moment. -/
def characters (moment : Moment) : List Char :=
  let date := Date.ofDays (moment.minute / 1440)
  let minute := (moment.minute % 1440).toNat
  yearText date.year ++ '-' :: paddedDigits 2 date.month ++ '-' :: paddedDigits 2 date.day ++
    'T' :: paddedDigits 2 (minute / 60) ++ ':' :: paddedDigits 2 (minute % 60) ++
    ':' :: paddedDigits 2 moment.second ++ fractionText moment.nanosecond ++ ['Z']

/-- The text of a moment. -/
def text (moment : Moment) : String :=
  String.ofList moment.characters

end Moment
end Stencil
