import OrderDesk.Text.Numeral

/-!
# Civil calendar

Days of the proleptic Gregorian calendar, counted from 1 January 1970. Years are counted
astronomically: year 0 exists and is a leap year.

## Main definitions

* `OrderDesk.Date`: a year, a month and a day.
* `OrderDesk.Date.ofDayNumber`, `OrderDesk.Date.dayNumber`: from and to day numbers.
* `OrderDesk.Date.IsValid`: the day exists.
* `OrderDesk.yearText`: a year of at least four digits, signed outside 0 to 9999.
-/

set_option autoImplicit false

namespace OrderDesk

/-- A day of the civil calendar. -/
structure Date where
  year : Int
  /-- From 1 for January. -/
  month : Nat
  /-- From 1. -/
  day : Nat
deriving DecidableEq, Inhabited

/-- Every fourth year is a leap year, except for three of four full centuries. -/
def isLeapYear (year : Int) : Bool :=
  year % 4 == 0 && (year % 100 != 0 || year % 400 == 0)

/-- The days of the twelve months. -/
def monthLengths (year : Int) : List Nat :=
  [31, if isLeapYear year then 29 else 28, 31, 30, 31, 30, 31, 31, 30, 31, 30, 31]

/-- The days from 1 January of year 0 to 1 January of the given year. -/
def daysBeforeYear (year : Int) : Int :=
  365 * year + (year + 3) / 4 - (year + 99) / 100 + (year + 399) / 400

/-- The year that contains a day counted from 1 January of year 0. The mean length of a year gives
an estimate that is off by at most one. -/
def yearOfDay (n : Int) : Int :=
  let estimate := n * 400 / 146097
  if n < daysBeforeYear estimate then estimate - 1
  else if daysBeforeYear (estimate + 1) ≤ n then estimate + 1
  else estimate

/-- The month and the day in it, both counted from `month` and 1, of a day counted from the start of
the first of the listed months. -/
def monthOfDay (month : Nat) : List Nat → Nat → Nat × Nat
  | [], n => (month, n + 1)
  | length :: lengths, n =>
    if n < length then (month, n + 1) else monthOfDay (month + 1) lengths (n - length)

/-- The day number of 1 January 1970, counted from 1 January of year 0. -/
def epochDay : Int := 719528

namespace Date

/-- The date of a day counted from 1 January 1970. -/
def ofDayNumber (n : Int) : Date :=
  let year := yearOfDay (n + epochDay)
  let (month, day) := monthOfDay 1 (monthLengths year) (n + epochDay - daysBeforeYear year).toNat
  ⟨year, month, day⟩

/-- The days since 1 January 1970. -/
def dayNumber (d : Date) : Int :=
  let daysBeforeMonth : Nat := ((monthLengths d.year).take (d.month - 1)).foldr (· + ·) 0
  daysBeforeYear d.year + daysBeforeMonth + d.day - 1 - epochDay

/-- The month exists and has the day. -/
def IsValid (d : Date) : Prop :=
  1 ≤ d.month ∧ 1 ≤ d.day ∧ ∃ length, (monthLengths d.year)[d.month - 1]? = some length ∧
    d.day ≤ length

instance (d : Date) : Decidable d.IsValid :=
  match h : (monthLengths d.year)[d.month - 1]? with
  | some length =>
    if hv : 1 ≤ d.month ∧ 1 ≤ d.day ∧ d.day ≤ length then
      isTrue ⟨hv.1, hv.2.1, length, h, hv.2.2⟩
    else isFalse fun ⟨h1, h2, l, hl, h3⟩ => hv ⟨h1, h2, by rw [h] at hl; cases hl; exact h3⟩
  | none => isFalse fun ⟨_, _, _, hl, _⟩ => by rw [h] at hl; cases hl

end Date

/-- The digits of a year: four of them from 0 to 9999, and a sign before at least four digits
outside. -/
def yearText (year : Int) : List Char :=
  if year < 0 then '-' :: Text.zeroPadded 4 year.natAbs
  else if year ≤ 9999 then Text.zeroPadded 4 year.natAbs
  else '+' :: Text.zeroPadded 4 year.natAbs

example : Date.ofDayNumber 0 = ⟨1970, 1, 1⟩ ∧ Date.ofDayNumber (-1) = ⟨1969, 12, 31⟩ ∧
    Date.ofDayNumber 11016 = ⟨2000, 2, 29⟩ := by decide +kernel

end OrderDesk
