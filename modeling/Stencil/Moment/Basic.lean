import Stencil.Decimal.Basic

/-!
# Moments

A moment of the UTC time scale is a minute, a second of it and a nanosecond of that.  A minute that
ends in a leap second has a second 60.
-/

namespace Stencil

/-- Decimal digits of a number, with zeros before them up to a width. -/
def paddedDigits (width value : Nat) : List Char :=
  let digits := Nat.toDigits 10 value
  List.replicate (width - digits.length) '0' ++ digits

/-- A moment of the UTC time scale. -/
structure Moment where
  /-- The number of minutes since the start of 1970. -/
  minute : Int
  /-- The second of the minute, at most 60. -/
  second : Nat
  /-- The nanosecond of the second. -/
  nanosecond : Nat
deriving DecidableEq, Repr, Inhabited

namespace Moment

/-- The number of seconds since the start of 1970, where no day has leap seconds. -/
def epochSecond (moment : Moment) : Int :=
  moment.minute * 60 + moment.second

/-- The moment a number of seconds and nanoseconds after the start of 1970. -/
def ofEpoch (seconds : Int) (nanosecond : Nat) : Moment where
  minute := seconds / 60
  second := (seconds % 60).toNat
  nanosecond := nanosecond

end Moment
end Stencil
