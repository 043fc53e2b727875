import Mathlib.Data.List.TakeWhile
import Stencil.Moment.Printer
import Stencil.Moment.Reader
import Stencil.Proofs.Moment.Calendar
import Stencil.Proofs.Text.Ascii

/-!
# Moments and their texts

A moment that was read from any text is read again from the text in which it is written.  Each part
of that text is taken by one step of the reader, which leaves what follows it.
-/

namespace Stencil

/-! ## Padded digits -/

theorem isDigit_of_mem_paddedDigits {width value : Nat} :
    ∀ digit ∈ paddedDigits width value, digit.isDigit = true := by
  intro digit member
  rcases List.mem_append.1 member with zero | inside
  · obtain rfl := List.eq_of_mem_replicate zero
    rfl
  · exact Nat.isDigit_of_mem_toDigits (by decide) (by decide) inside

theorem exists_paddedDigits (width value : Nat) :
    ∃ digit digits, paddedDigits width value = digit :: digits ∧ digit.isDigit = true := by
  cases shape : paddedDigits width value with
  | nil => exact absurd (List.append_eq_nil_iff.1 shape).2 Nat.toDigits_ne_nil
  | cons digit digits =>
      exact ⟨digit, digits, rfl, isDigit_of_mem_paddedDigits digit (shape ▸ List.mem_cons_self)⟩

theorem isEmpty_paddedDigits (width value : Nat) :
    (paddedDigits width value).isEmpty = false := by
  obtain ⟨digit, digits, shape, -⟩ := exists_paddedDigits width value
  rw [shape]
  rfl

theorem length_paddedDigits {width value : Nat} (positive : 0 < width) (fits : value < 10 ^ width) :
    (paddedDigits width value).length = width := by
  have short := (Nat.length_toDigits_le_iff (by decide) positive).2 fits
  rw [paddedDigits, List.length_append, List.length_replicate]
  omega

theorem ofDigitChars_paddedDigits (width value : Nat) :
    Nat.ofDigitChars 10 (paddedDigits width value) 0 = value := by
  rw [paddedDigits, Nat.ofDigitChars_append, Nat.ofDigitChars_replicate_zero, Nat.mul_zero,
    Nat.ofDigitChars_ten_toDigits]

namespace Moment

variable {rest : List Char}

/-- Whether a text does not go on with a digit. -/
def Stops (rest : List Char) : Prop :=
  ∀ character ∈ rest.head?, character.isDigit = false

theorem stops_cons {character : Char} (other : character.isDigit = false) (rest : List Char) :
    Stops (character :: rest) := by
  simpa [Stops] using other

theorem Stops.takeWhile (stops : Stops rest) : rest.takeWhile Char.isDigit = [] := by
  cases rest with
  | nil => rfl
  | cons character rest => rw [List.takeWhile_cons_of_neg (by simp [stops character rfl])]

theorem Stops.dropWhile (stops : Stops rest) : rest.dropWhile Char.isDigit = rest := by
  cases rest with
  | nil => rfl
  | cons character rest => rw [List.dropWhile_cons_of_neg (by simp [stops character rfl])]

/-! ## The steps of the reader -/

theorem trimStart_cons {character : Char} (visible : Text.isBlank character = false)
    (rest : List Char) : Text.trimStart (character :: rest) = character :: rest := by
  rw [Text.trimStart, List.dropWhile_cons_of_neg (by simp [visible])]

theorem trimStart_paddedDigits (width value : Nat) (rest : List Char) :
    Text.trimStart (paddedDigits width value ++ rest) = paddedDigits width value ++ rest := by
  obtain ⟨digit, digits, shape, isDigit⟩ := exists_paddedDigits width value
  rw [shape]
  exact trimStart_cons (isBlank_of_isDigit isDigit) _

/-- A number is read up to where its digits end or no more may be read. -/
theorem readNumber_of_take {most width value : Nat}
    (taken : ((paddedDigits width value ++ rest).take most).takeWhile Char.isDigit =
      paddedDigits width value) :
    readNumber most (paddedDigits width value ++ rest) = some (value, rest) := by
  simp only [readNumber, trimStart_paddedDigits, taken, isEmpty_paddedDigits, List.drop_left,
    ofDigitChars_paddedDigits]
  rfl

/-- A number of as many digits as may be read is read whatever follows. -/
theorem readNumber_paddedDigits {width value : Nat} (positive : 0 < width)
    (fits : value < 10 ^ width) (rest : List Char) :
    readNumber width (paddedDigits width value ++ rest) = some (value, rest) := by
  apply readNumber_of_take
  rw [List.take_left' (length_paddedDigits positive fits)]
  exact List.takeWhile_eq_self_iff.2 isDigit_of_mem_paddedDigits

/-- A number is read to the end of its digits if any number of them may be read. -/
theorem readNumber_length {width value : Nat} (stops : Stops rest) :
    readNumber (paddedDigits width value ++ rest).length (paddedDigits width value ++ rest) =
      some (value, rest) := by
  apply readNumber_of_take
  rw [List.take_length, List.takeWhile_append_of_pos isDigit_of_mem_paddedDigits, stops.takeWhile,
    List.append_nil]

theorem readMark_self {mark : Char} (visible : Text.isBlank mark = false) (rest : List Char) :
    readMark mark (mark :: rest) = some rest := by
  rw [readMark, trimStart_cons visible]
  exact if_pos rfl

/-- After a sign all digits that follow are read, and they may be more than four. -/
theorem readYear_sign {sign : Char} (isSign : sign = '-' ∨ sign = '+') (size : Nat)
    (stops : Stops rest) :
    readYear (sign :: (paddedDigits 4 size ++ rest)) =
      some (if sign = '-' then -(size : Int) else size, rest) := by
  obtain ⟨digit, digits, shape, isDigit⟩ := exists_paddedDigits 4 size
  have read : readNumber (paddedDigits 4 size ++ rest).length (paddedDigits 4 size ++ rest) =
      some (size, rest) :=
    readNumber_length stops
  rw [shape] at read ⊢
  rcases isSign with rfl | rfl
  all_goals
    rw [readYear, trimStart_cons (by decide)]
    simp only [List.cons_append, isDigit, if_true] at read ⊢
    rw [read]
    rfl

/-- Without a sign four digits are read. -/
theorem readYear_digits {size : Nat} (fits : size < 10 ^ 4) (rest : List Char) :
    readYear (paddedDigits 4 size ++ rest) = some ((size : Int), rest) := by
  obtain ⟨digit, digits, shape, isDigit⟩ := exists_paddedDigits 4 size
  have unsigned : digit ≠ '-' ∧ digit ≠ '+' := by
    constructor <;> rintro rfl <;> exact absurd isDigit (by decide)
  rw [readYear, trimStart_paddedDigits]
  split
  next signed => simp [shape, unsigned] at signed
  next signed => simp [shape, unsigned] at signed
  next =>
    rw [readNumber_paddedDigits (by decide) fits]
    rfl

/-- A year is read with its sign, if it has one, and otherwise as four digits. -/
theorem readYear_yearText (year : Int) (stops : Stops rest) :
    readYear (yearText year ++ rest) = some (year, rest) := by
  unfold yearText
  split
  next short =>
    have size : (year.natAbs : Int) = year := by omega
    rw [readYear_digits (by omega), size]
  next long =>
    split
    next negative =>
      have size : -(year.natAbs : Int) = year := by omega
      rw [List.cons_append, readYear_sign (.inl rfl) _ stops, if_pos rfl, size]
    next positive =>
      have size : (year.natAbs : Int) = year := by omega
      rw [List.cons_append, readYear_sign (.inr rfl) _ stops, if_neg (by decide), size]

theorem readDate_text {date : Date} (month : date.month < 10 ^ 2) (day : date.day < 10 ^ 2)
    (rest : List Char) :
    readDate (yearText date.year ++ '-' :: (paddedDigits 2 date.month ++
      '-' :: (paddedDigits 2 date.day ++ rest))) = some (date, rest) := by
  have minus : Text.isBlank '-' = false := by decide
  have stops (rest : List Char) : Stops ('-' :: rest) := stops_cons rfl rest
  simp only [readDate, readYear_yearText _ (stops _), readMark_self minus,
    readNumber_paddedDigits (by decide) month, readNumber_paddedDigits (by decide) day,
    Option.bind_eq_bind, Option.bind_some]
  rfl

/-- The digits of a fraction stand for the number whose zeros at the end are left out. -/
theorem nanosecondOf_paddedDigits {width value : Nat} (positive : 0 < width) (short : width ≤ 9)
    (fits : value < 10 ^ width) :
    nanosecondOf (paddedDigits width value) = value * 10 ^ (9 - width) := by
  have length := length_paddedDigits positive fits
  have taken : (paddedDigits width value ++ List.replicate 9 '0').take 9 =
      paddedDigits width value ++ List.replicate (9 - width) '0' := by
    rw [List.take_append, length, List.take_of_length_le (by omega), List.take_replicate]
    congr 2
    omega
  rw [nanosecondOf, taken, Nat.ofDigitChars_append, ofDigitChars_paddedDigits,
    Nat.ofDigitChars_replicate_zero, Nat.mul_comm]

theorem readNanosecond_point {width value : Nat} (positive : 0 < width) (short : width ≤ 9)
    (fits : value < 10 ^ width) (stops : Stops rest) :
    readNanosecond ('.' :: paddedDigits width value ++ rest) =
      some (value * 10 ^ (9 - width), rest) := by
  simp only [readNanosecond, List.cons_append,
    List.takeWhile_append_of_pos isDigit_of_mem_paddedDigits,
    List.dropWhile_append_of_pos isDigit_of_mem_paddedDigits, stops.takeWhile, stops.dropWhile,
    List.append_nil, isEmpty_paddedDigits, nanosecondOf_paddedDigits positive short fits]
  rfl

/-- A fraction is read from as few digits as it is written in. -/
theorem readNanosecond_fractionText {nanosecond : Nat} (bounded : nanosecond < 10 ^ 9)
    (stops : Stops rest) (other : rest.head? ≠ some '.') :
    readNanosecond (fractionText nanosecond ++ rest) = some (nanosecond, rest) := by
  unfold fractionText
  split
  next zero =>
    subst zero
    unfold readNanosecond
    split
    next shape => exact absurd (congrArg List.head? shape) other
    next => rfl
  next =>
    split
    next thousands =>
      rw [readNanosecond_point (by decide) (by decide) (by omega) stops]
      congr 2
      omega
    next =>
      split
      next thousands =>
        rw [readNanosecond_point (by decide) (by decide) (by omega) stops]
        congr 2
        omega
      next =>
        rw [readNanosecond_point (by decide) (by decide) bounded stops]
        rw [Nat.sub_self, pow_zero, mul_one]

theorem readClock_text {hour minute second nanosecond : Nat} (hourFits : hour ≤ 23)
    (minuteFits : minute ≤ 59) (secondFits : second ≤ 60) (bounded : nanosecond < 10 ^ 9)
    (stops : Stops rest) (other : rest.head? ≠ some '.') :
    readClock (paddedDigits 2 hour ++ ':' :: (paddedDigits 2 minute ++
        ':' :: (paddedDigits 2 second ++ (fractionText nanosecond ++ rest)))) =
      some (⟨hour * 60 + minute, second, nanosecond⟩, rest) := by
  have colon : Text.isBlank ':' = false := by decide
  have twoDigits {value : Nat} (fits : value < 10 ^ 2) (rest : List Char) :
      readNumber 2 (paddedDigits 2 value ++ rest) = some (value, rest) :=
    readNumber_paddedDigits (by decide) fits rest
  have hourDigits : hour < 10 ^ 2 := by omega
  have minuteDigits : minute < 10 ^ 2 := by omega
  have secondDigits : second < 10 ^ 2 := by omega
  simp only [readClock, readMark_self colon, twoDigits hourDigits, twoDigits minuteDigits,
    twoDigits secondDigits, readNanosecond_fractionText bounded stops other, Option.bind_eq_bind,
    Option.bind_some]
  exact if_pos ⟨hourFits, minuteFits, secondFits⟩

/-! ## Whole texts -/

/-- What all moments that were read have in common. -/
structure Legible (moment : Moment) : Prop where
  /-- The second is at most that of a leap second. -/
  second_le : moment.second ≤ 60
  /-- The nanosecond is less than a second. -/
  nanosecond_lt : moment.nanosecond < 10 ^ 9
  /-- The year can be represented. -/
  inRange : inRange moment.minute = true

theorem nanosecondOf_lt {digits : List Char} (isDigit : ∀ digit ∈ digits, digit.isDigit = true) :
    nanosecondOf digits < 10 ^ 9 := by
  have taken : ∀ digit ∈ (digits ++ List.replicate 9 '0').take 9, digit.isDigit = true := by
    intro digit member
    rcases List.mem_append.1 (List.mem_of_mem_take member) with inside | zero
    · exact isDigit digit inside
    · obtain rfl := List.eq_of_mem_replicate zero
      rfl
  have length : ((digits ++ List.replicate 9 '0').take 9).length = 9 := by
    simp
  have bounded := ofDigitChars_lt taken
  rwa [length] at bounded

theorem readNanosecond_lt {text : List Char} {nanosecond : Nat}
    (read : readNanosecond text = some (nanosecond, rest)) : nanosecond < 10 ^ 9 := by
  unfold readNanosecond at read
  split at read
  next text =>
    dsimp only at read
    split at read
    next => cases read
    next =>
      obtain ⟨rfl, -⟩ := Prod.mk.inj (Option.some.inj read)
      exact nanosecondOf_lt fun digit member => List.mem_takeWhile_imp member
  next =>
    obtain ⟨rfl, -⟩ := Prod.mk.inj (Option.some.inj read)
    decide

theorem bounds_of_readClock {text : List Char} {clock : Clock}
    (read : readClock text = some (clock, rest)) :
    clock.second ≤ 60 ∧ clock.nanosecond < 10 ^ 9 := by
  simp only [readClock, Option.bind_eq_bind, Option.bind_eq_some_iff] at read
  obtain ⟨hour, -, afterHour, -, minute, -, afterMinute, -, second, -, fraction, readFraction,
    result⟩ := read
  split at result
  next fits =>
    obtain ⟨rfl, -⟩ := Prod.mk.inj (Option.some.inj result)
    exact ⟨fits.2.2, readNanosecond_lt readFraction⟩
  next => cases result

/-- Every moment that is read can be written so that it is read again. -/
theorem legible_of_read? {text : List Char} {moment : Moment} (read : read? text = some moment) :
    moment.Legible := by
  simp only [read?, Option.bind_eq_bind, Option.bind_eq_some_iff] at read
  obtain ⟨date, -, afterDate, -, clock, readClock, offset, -, result⟩ := read
  obtain ⟨secondBound, nanosecondBound⟩ := bounds_of_readClock readClock
  split at result
  next =>
    unfold ofLocal? at result
    dsimp only at result
    split at result
    next fits =>
      obtain rfl := Option.some.inj result
      simp only [Bool.and_eq_true] at fits
      exact ⟨secondBound, nanosecondBound, fits.2⟩
    next => cases result
  next => cases result

/-- A clock in UTC shows the date and the time of day from which the moment is made again. -/
theorem ofLocal?_ofDays {minute : Int} (represented : inRange minute = true)
    (second nanosecond : Nat) :
    ofLocal? (Date.ofDays (minute / 1440))
        ⟨(minute % 1440).toNat / 60 * 60 + (minute % 1440).toNat % 60, second, nanosecond⟩ 0 =
      some ⟨minute, second, nanosecond⟩ := by
  have shown : minute / 1440 * 1440 +
      (((minute % 1440).toNat / 60 * 60 + (minute % 1440).toNat % 60 : Nat) : Int) = minute := by
    omega
  simp only [ofLocal?, Date.toDays_ofDays, Date.isValid_ofDays, shown, sub_zero, represented,
    Bool.and_self, if_true]

/-- A moment is read from its text. -/
theorem read?_characters {moment : Moment} (legible : moment.Legible) :
    read? moment.characters = some moment := by
  let date := Date.ofDays (moment.minute / 1440)
  obtain ⟨month, day⟩ : date.month < 10 ^ 2 ∧ date.day < 10 ^ 2 :=
    Date.digits_of_isValid (Date.isValid_ofDays _)
  have separated (rest : List Char) : readSeparator ('T' :: rest) = some rest := rfl
  have hour : (moment.minute % 1440).toNat / 60 ≤ 23 := by omega
  have minute : (moment.minute % 1440).toNat % 60 ≤ 59 := by omega
  have stops : Stops ['Z'] := stops_cons rfl []
  have other : ['Z'].head? ≠ some '.' := by decide
  have offset : readOffset ['Z'] = some (0, []) := by decide
  simp only [characters, List.append_assoc, List.cons_append, read?]
  rw [readDate_text month day]
  simp only [Option.bind_eq_bind, Option.bind_some, separated, offset,
    readClock_text hour minute legible.second_le legible.nanosecond_lt stops other]
  exact ofLocal?_ofDays legible.inRange _ _

theorem ofText?_text {moment : Moment} (legible : moment.Legible) :
    ofText? moment.text = some moment := by
  rw [ofText?, text, String.toList_ofList, read?_characters legible]

end Moment
end Stencil
