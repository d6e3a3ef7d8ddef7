import OrderDesk.Order.Id
import OrderDesk.Proofs.Numeral

/-!
# Time in order

A later second has a later date and time of day, and a later date and time of day is a larger
text: all of its fields have a fixed width, and the larger ones come first. So the order IDs that
are drawn by the clock are ordered by the second in which they are drawn, and in one second by
chance.

## Main definitions

* `OrderDesk.Instant.clockSecond` — the second on the clock, with room for leap seconds.
* `OrderDesk.Instant.IsCivil` — a reading of the wall clock that has a text of the usual width.

## Main results

* `OrderDesk.yearOfDay_spec` — the year of a day contains it.
* `OrderDesk.Date.ofDayNumber_lt` — a later day has a later date.
* `OrderDesk.OrderId.dateAndTime_inj` — texts of dates and times tell seconds of all years apart.
* `OrderDesk.OrderId.dateAndTime_lt_iff` — in years of four digits they are ordered like these.
* `OrderDesk.OrderId.standard_lt_iff`, `OrderDesk.OrderId.standard_lt_of_earlier` — how the order
  IDs that are drawn by the clock are ordered.
-/

set_option autoImplicit false

namespace OrderDesk

/-! ## Years -/

/-- A later year begins later. -/
theorem daysBeforeYear_le {year later : Int} (h : year ≤ later) :
    daysBeforeYear year ≤ daysBeforeYear later := by
  unfold daysBeforeYear
  omega

/-- **The year of a day** contains it: the estimate is off by one at most. -/
theorem yearOfDay_spec (n : Int) :
    daysBeforeYear (yearOfDay n) ≤ n ∧ n < daysBeforeYear (yearOfDay n + 1) := by
  unfold yearOfDay
  dsimp only
  generalize hestimate : n * 400 / 146097 = estimate
  split
  · rw [Int.sub_add_cancel]
    unfold daysBeforeYear at *
    omega
  · split
    · unfold daysBeforeYear at *
      omega
    · unfold daysBeforeYear at *
      omega

/-- A later day is in no earlier year. -/
theorem yearOfDay_le {m n : Int} (h : m ≤ n) : yearOfDay m ≤ yearOfDay n := by
  by_contra hless
  have hbegin := daysBeforeYear_le (show yearOfDay n + 1 ≤ yearOfDay m by omega)
  have hm := (yearOfDay_spec m).1
  have hn := (yearOfDay_spec n).2
  omega

/-- A year has 366 days at most. -/
theorem daysBeforeYear_succ_le (year : Int) :
    daysBeforeYear (year + 1) ≤ daysBeforeYear year + 366 := by
  unfold daysBeforeYear
  omega

/-! ## Months -/

section Months

variable {month : Nat} {lengths : List Nat}

/-- Months are counted from the first one. -/
theorem le_monthOfDay (n : Nat) : month ≤ (monthOfDay month lengths n).1 := by
  induction lengths generalizing month n with
  | nil => exact Nat.le_refl _
  | cons length lengths ih =>
    unfold monthOfDay
    split
    · exact Nat.le_refl _
    · exact Nat.le_of_succ_le (ih (n - length))

/-- Months are counted up to the one behind the last. -/
theorem monthOfDay_le (n : Nat) : (monthOfDay month lengths n).1 ≤ month + lengths.length := by
  induction lengths generalizing month n with
  | nil => exact Nat.le_refl _
  | cons length lengths ih =>
    unfold monthOfDay
    split
    · exact Nat.le_add_right _ _
    · have := @ih (month + 1) (n - length)
      rw [List.length_cons]
      omega

/-- A day that is not far behind the last month has a small number in its month. -/
theorem dayOfMonth_le {most n : Nat} (hlengths : ∀ length ∈ lengths, length ≤ most)
    (hn : n < lengths.foldr (· + ·) 0 + most) : (monthOfDay month lengths n).2 ≤ most := by
  induction lengths generalizing month n with
  | nil => exact Nat.succ_le_of_lt (by simpa using hn)
  | cons length lengths ih =>
    have hlength := hlengths length List.mem_cons_self
    rw [List.foldr_cons] at hn
    unfold monthOfDay
    split
    · dsimp only
      omega
    · exact ih (fun length h => hlengths length (List.mem_cons_of_mem _ h)) (by omega)

/-- A later day of a year is in a later month, or it is a later day of the same month. -/
theorem monthOfDay_lt {m n : Nat} (h : m < n) :
    (monthOfDay month lengths m).1 < (monthOfDay month lengths n).1 ∨
      (monthOfDay month lengths m).1 = (monthOfDay month lengths n).1 ∧
        (monthOfDay month lengths m).2 < (monthOfDay month lengths n).2 := by
  induction lengths generalizing month m n with
  | nil => exact .inr ⟨rfl, Nat.succ_lt_succ h⟩
  | cons length lengths ih =>
    unfold monthOfDay
    by_cases hm : m < length
    · by_cases hn : n < length
      · rw [if_pos hm, if_pos hn]
        exact .inr ⟨rfl, Nat.succ_lt_succ h⟩
      · rw [if_pos hm, if_neg hn]
        exact .inl (le_monthOfDay (n - length))
    · rw [if_neg hm, if_neg (by omega)]
      exact ih (by omega)

end Months

/-! ## Dates -/

attribute [ext] Date

namespace Date

/-- A later day has a **later date**: a later year, or in one year a later month, or in one month a
later day. -/
theorem ofDayNumber_lt {m n : Int} (h : m < n) :
    (ofDayNumber m).year < (ofDayNumber n).year ∨
      (ofDayNumber m).year = (ofDayNumber n).year ∧
        ((ofDayNumber m).month < (ofDayNumber n).month ∨
          (ofDayNumber m).month = (ofDayNumber n).month ∧
            (ofDayNumber m).day < (ofDayNumber n).day) := by
  rcases Int.lt_or_eq_of_le (yearOfDay_le (show m + epochDay ≤ n + epochDay by omega)) with
    hyear | hyear
  · exact .inl hyear
  · refine .inr ⟨hyear, ?_⟩
    have hm := (yearOfDay_spec (m + epochDay)).1
    unfold ofDayNumber
    rw [← hyear]
    exact monthOfDay_lt (by omega)

/-- Different days have different dates. -/
theorem ofDayNumber_inj {m n : Int} : ofDayNumber m = ofDayNumber n ↔ m = n := by
  refine ⟨fun h => ?_, congrArg _⟩
  rcases Int.lt_trichotomy m n with hless | hsame | hmore
  · have := ofDayNumber_lt hless
    rw [h] at this
    omega
  · exact hsame
  · have := ofDayNumber_lt hmore
    rw [h] at this
    omega

/-- Months and days have two digits at most. -/
theorem month_le_and_day_le (n : Int) : (ofDayNumber n).month ≤ 13 ∧ (ofDayNumber n).day ≤ 31 := by
  unfold ofDayNumber
  generalize hyear : yearOfDay (n + epochDay) = year
  have hlengths : (∀ length ∈ monthLengths year, length ≤ 31) ∧
      365 ≤ (monthLengths year).foldr (· + ·) 0 := by
    unfold monthLengths
    split <;> decide
  have hspec := yearOfDay_spec (n + epochDay)
  have hend := daysBeforeYear_succ_le year
  rw [hyear] at hspec
  exact ⟨monthOfDay_le _, dayOfMonth_le hlengths.1 (by omega)⟩

end Date

/-! ## Seconds on the clock -/

/-- A reading of the wall clock is **civil** if its year has four digits. The wall clock does not
show leap seconds. -/
structure Instant.IsCivil (t : Instant) : Prop where
  nanos : t.nanos < 1000000000
  year : 0 ≤ t.date.year ∧ t.date.year ≤ 9999

instance (t : Instant) : Decidable t.IsCivil :=
  decidable_of_iff (t.nanos < 1000000000 ∧ 0 ≤ t.date.year ∧ t.date.year ≤ 9999)
    ⟨fun h => ⟨h.1, h.2⟩, fun h => ⟨h.nanos, h.year⟩⟩

namespace Instant

/-- The second of the minute that a clock shows: a leap second is shown behind the second that it
belongs to. -/
def shownSecond (t : Instant) : Nat :=
  t.second + t.nanos / 1000000000

/-- The **second on the clock**, counted as if every minute had room for a leap second. -/
def clockSecond (t : Instant) : Int :=
  61 * (t.seconds / 60) + t.shownSecond

/-- A clock shows leap seconds at the end of a minute only. -/
def IsClockReading (t : Instant) : Prop :=
  1000000000 ≤ t.nanos → t.second = 59

instance (t : Instant) : Decidable t.IsClockReading :=
  inferInstanceAs (Decidable (1000000000 ≤ t.nanos → t.second = 59))

variable {s t : Instant}

/-- A minute has one leap second at most. -/
theorem shownSecond_le (t : Instant) : t.shownSecond ≤ 60 := by
  have := t.nanos_lt
  unfold shownSecond second
  omega

/-- Only a leap second is shown as another second than it is. -/
theorem shownSecond_of_lt (h : t.nanos < 1000000000) : t.shownSecond = t.second := by
  rw [shownSecond, Nat.div_eq_of_lt h, Nat.add_zero]

/-- A clock shows a later second as a later one. -/
theorem IsClockReading.clockSecond_lt (hs : s.IsClockReading) (h : s.seconds < t.seconds) :
    s.clockSecond < t.clockSecond := by
  have hnanos := s.nanos_lt
  unfold IsClockReading at hs
  unfold clockSecond shownSecond
  unfold second secondOfDay at *
  omega

/-- A clock shows different seconds as different ones. -/
theorem IsClockReading.seconds_eq (hs : s.IsClockReading) (ht : t.IsClockReading)
    (h : s.clockSecond = t.clockSecond) : s.seconds = t.seconds := by
  rcases Int.lt_trichotomy s.seconds t.seconds with hless | hsame | hmore
  · exact absurd h (Int.ne_of_lt (hs.clockSecond_lt hless))
  · exact hsame
  · exact absurd h.symm (Int.ne_of_lt (ht.clockSecond_lt hmore))

/-- Without leap seconds there are sixty seconds in a minute. -/
theorem IsCivil.clockSecond_eq (h : t.IsCivil) :
    t.clockSecond = 61 * (t.seconds / 60) + t.seconds % 60 := by
  rw [clockSecond, shownSecond_of_lt h.nanos, second, secondOfDay]
  omega

/-- Two instants are on the same second of the clock exactly if everything that the clock shows is
the same. -/
theorem clockSecond_eq_iff : s.clockSecond = t.clockSecond ↔
    s.date = t.date ∧ s.hour = t.hour ∧ s.minute = t.minute ∧ s.shownSecond = t.shownSecond := by
  have hs := s.shownSecond_le
  have ht := t.shownSecond_le
  have hdate : s.date = t.date ↔ s.seconds / 86400 = t.seconds / 86400 := Date.ofDayNumber_inj
  rw [hdate]
  unfold clockSecond hour minute secondOfDay
  omega

/-- On a later second of the clock the date or the time of day is a later one. -/
theorem fields_lt_of_clockSecond_lt (h : s.clockSecond < t.clockSecond) :
    s.seconds / 86400 < t.seconds / 86400 ∨ s.date = t.date ∧
      (s.hour < t.hour ∨ s.hour = t.hour ∧
        (s.minute < t.minute ∨ s.minute = t.minute ∧ s.shownSecond < t.shownSecond)) := by
  have hs := s.shownSecond_le
  have ht := t.shownSecond_le
  unfold clockSecond at h
  rcases Int.lt_or_eq_of_le (show s.seconds / 86400 ≤ t.seconds / 86400 by omega) with
    hlater | hsame
  · exact .inl hlater
  · refine .inr ⟨congrArg Date.ofDayNumber hsame, ?_⟩
    unfold hour minute secondOfDay
    omega

end Instant

namespace OrderId

open Text

variable {s t : Instant}

/-! ## Texts of dates and times -/

/-- The fields of the date and the time of day have as many digits as there is room for. -/
theorem fields_lt (t : Instant) :
    t.date.month < 10 ^ 2 ∧ t.date.day < 10 ^ 2 ∧ t.hour < 10 ^ 2 ∧ t.minute < 10 ^ 2 ∧
      t.shownSecond < 10 ^ 2 := by
  obtain ⟨hmonth, hday⟩ := Date.month_le_and_day_le (t.seconds / 86400)
  have hday' : t.date.day ≤ 31 := hday
  have hmonth' : t.date.month ≤ 13 := hmonth
  have hsecond := t.shownSecond_le
  unfold Instant.hour Instant.minute Instant.secondOfDay
  refine ⟨?_, ?_, ?_, ?_, ?_⟩ <;> omega

/-- The digits of the date. -/
def dateDigits (t : Instant) : List Char :=
  yearText t.date.year ++ (zeroPadded 2 t.date.month ++ zeroPadded 2 t.date.day)

/-- The digits of the time of day. -/
def timeDigits (t : Instant) : List Char :=
  zeroPadded 2 t.hour ++ (zeroPadded 2 t.minute ++ zeroPadded 2 t.shownSecond)

/-- The date stands before the time of day, with an underscore in between. -/
theorem dateAndTime_eq (t : Instant) : dateAndTime t = dateDigits t ++ '_' :: timeDigits t := by
  simp [dateAndTime, dateDigits, timeDigits, Instant.shownSecond]

/-- The time of day has six digits. -/
theorem length_timeDigits (t : Instant) : (timeDigits t).length = 6 := by
  obtain ⟨-, -, hhour, hminute, hsecond⟩ := fields_lt t
  have htwo : 0 < 2 := by decide
  simp only [timeDigits, List.length_append, length_zeroPadded htwo hhour,
    length_zeroPadded htwo hminute, length_zeroPadded htwo hsecond]

/-- A year of at most four digits is written with four. -/
theorem yearText_eq {year : Int} (h : 0 ≤ year ∧ year ≤ 9999) :
    yearText year = zeroPadded 4 year.natAbs := by
  rw [yearText, if_neg (Int.not_lt.2 h.1), if_pos h.2]

/-- Different years are written differently: the digits are those of the absolute value, and only
years before year 0 have a minus sign. -/
theorem yearText_inj {year year' : Int} : yearText year = yearText year' ↔ year = year' := by
  have hdigits (year : Int) : (yearText year).filter Char.isDigit = zeroPadded 4 year.natAbs := by
    have hall : (zeroPadded 4 year.natAbs).filter Char.isDigit = zeroPadded 4 year.natAbs :=
      List.filter_eq_self.2 fun c => isDigit_of_mem_zeroPadded
    unfold yearText
    split_ifs <;> simp [hall, Char.isDigit]
  have hminus (year : Int) : '-' ∈ yearText year ↔ year < 0 := by
    have hnot := notMem_zeroPadded (show '-'.isDigit = false by decide) 4 year.natAbs
    unfold yearText
    split_ifs with hneg <;> simp [hneg, hnot]
  refine ⟨fun h => ?_, congrArg _⟩
  have habs := hdigits year
  have hsign := hminus year
  rw [h, hdigits year', zeroPadded_inj] at habs
  rw [h, hminus year'] at hsign
  omega

/-- There is no underscore in the date. -/
theorem notMem_dateDigits (t : Instant) : '_' ∉ dateDigits t := by
  have hfield := notMem_zeroPadded (show '_'.isDigit = false by decide)
  have hyear : '_' ∉ yearText t.date.year := by
    unfold yearText
    split_ifs <;> simp [hfield]
  simp [dateDigits, hyear, hfield]

/-- There is no underscore in the time of day. -/
theorem notMem_timeDigits (t : Instant) : '_' ∉ timeDigits t := by
  simp [timeDigits, notMem_zeroPadded (show '_'.isDigit = false by decide)]

/-- Different dates have different digits: the month and the day are the last four of them. -/
theorem dateDigits_inj : dateDigits s = dateDigits t ↔ s.date = t.date := by
  refine ⟨fun h => ?_, fun h => by rw [dateDigits, dateDigits, h]⟩
  obtain ⟨hmonth, hday, -⟩ := fields_lt s
  obtain ⟨hmonth', hday', -⟩ := fields_lt t
  have htwo : 0 < 2 := by decide
  obtain ⟨hyears, hrest⟩ := List.append_inj' h (by
    rw [List.length_append, List.length_append, length_zeroPadded_eq htwo hmonth hmonth',
      length_zeroPadded_eq htwo hday hday'])
  rw [field_eq_iff htwo hmonth hmonth', zeroPadded_inj] at hrest
  exact Date.ext (yearText_inj.1 hyears) hrest.1 hrest.2

/-- Different times of day have different digits. -/
theorem timeDigits_inj : timeDigits s = timeDigits t ↔
    s.hour = t.hour ∧ s.minute = t.minute ∧ s.shownSecond = t.shownSecond := by
  obtain ⟨-, -, hhour, hminute, -⟩ := fields_lt s
  obtain ⟨-, -, hhour', hminute', -⟩ := fields_lt t
  have htwo : 0 < 2 := by decide
  rw [timeDigits, timeDigits, field_eq_iff htwo hhour hhour', field_eq_iff htwo hminute hminute',
    zeroPadded_inj]

/-- **Texts of dates and times** are the same exactly on the same second of the clock. -/
theorem dateAndTime_inj : dateAndTime s = dateAndTime t ↔ s.clockSecond = t.clockSecond := by
  rw [dateAndTime_eq, dateAndTime_eq,
    append_cons_eq_iff (notMem_dateDigits s) (notMem_dateDigits t), dateDigits_inj, timeDigits_inj,
    Instant.clockSecond_eq_iff]

/-- On a later second of the clock the date and the time of day are a larger text.

**Proof sketch.** On a later day one of the fields of the date is larger, and those before it are
the same. On the same day one of the fields of the time of day is. -/
theorem dateAndTime_lt (hs : 0 ≤ s.date.year ∧ s.date.year ≤ 9999)
    (ht : 0 ≤ t.date.year ∧ t.date.year ≤ 9999) (h : s.clockSecond < t.clockSecond) :
    dateAndTime s < dateAndTime t := by
  obtain ⟨hmonth, hday, hhour, hminute, hsecond⟩ := fields_lt s
  obtain ⟨hmonth', hday', hhour', hminute', hsecond'⟩ := fields_lt t
  have hfour : 0 < 4 := by decide
  have htwo : 0 < 2 := by decide
  have hyear : s.date.year.natAbs < 10 ^ 4 := by omega
  have hyear' : t.date.year.natAbs < 10 ^ 4 := by omega
  rw [dateAndTime_eq, dateAndTime_eq, dateDigits, dateDigits, timeDigits, timeDigits,
    yearText_eq hs, yearText_eq ht, List.append_assoc, List.append_assoc, List.append_assoc,
    List.append_assoc, field_lt_iff hfour hyear hyear', field_lt_iff htwo hmonth hmonth',
    field_lt_iff htwo hday hday', List.cons_lt_cons_iff, field_lt_iff htwo hhour hhour',
    field_lt_iff htwo hminute hminute', zeroPadded_lt_iff htwo hsecond hsecond']
  rcases Instant.fields_lt_of_clockSecond_lt h with hlater | ⟨hdate, htime⟩
  · have hdate := Date.ofDayNumber_lt hlater
    change s.date.year < t.date.year ∨ s.date.year = t.date.year ∧ (s.date.month < t.date.month ∨
      s.date.month = t.date.month ∧ s.date.day < t.date.day) at hdate
    omega
  · rw [hdate]
    exact .inr ⟨rfl, .inr ⟨rfl, .inr ⟨rfl, .inr ⟨rfl, htime⟩⟩⟩⟩

/-- **Texts of dates and times** are ordered like the seconds on the clock. -/
theorem dateAndTime_lt_iff (hs : 0 ≤ s.date.year ∧ s.date.year ≤ 9999)
    (ht : 0 ≤ t.date.year ∧ t.date.year ≤ 9999) :
    dateAndTime s < dateAndTime t ↔ s.clockSecond < t.clockSecond := by
  refine ⟨fun h => ?_, dateAndTime_lt hs ht⟩
  rcases Int.lt_trichotomy s.clockSecond t.clockSecond with hless | hsame | hmore
  · exact hless
  · rw [dateAndTime_inj.2 hsame] at h
    exact (List.lt_irrefl _ h).elim
  · exact (List.lt_asymm h (dateAndTime_lt ht hs hmore)).elim

/-- The date and the time of day have fifteen characters if the year has four. -/
theorem length_dateAndTime (h : 0 ≤ t.date.year ∧ t.date.year ≤ 9999) :
    (dateAndTime t).length = 15 := by
  obtain ⟨hmonth, hday, -⟩ := fields_lt t
  have hyear : t.date.year.natAbs < 10 ^ 4 := by omega
  rw [dateAndTime_eq, dateDigits, yearText_eq h, List.length_append, List.length_append,
    List.length_append, List.length_cons, length_timeDigits,
    length_zeroPadded (show 0 < 4 by decide) hyear,
    length_zeroPadded (show 0 < 2 by decide) hmonth, length_zeroPadded (show 0 < 2 by decide) hday]

/-! ## Order IDs in order -/

/-- Order IDs that are drawn by the clock are ordered by the second on the clock, and in one second
by the token and what is behind it. -/
theorem standard_lt_iff_of_year (hs : 0 ≤ s.date.year ∧ s.date.year ≤ 9999)
    (ht : 0 ≤ t.date.year ∧ t.date.year ≤ 9999) {u v : Uuid} {username username' : Option String} :
    (standard s u username).text < (standard t v username').text ↔
      s.clockSecond < t.clockSecond ∨ s.clockSecond = t.clockSecond ∧
        token u ++ userSuffix username < token v ++ userSuffix username' := by
  have hlength : (dateAndTime s).length = (dateAndTime t).length := by
    rw [length_dateAndTime hs, length_dateAndTime ht]
  simp only [standard, String.lt_iff, String.toList_ofList, List.append_assoc]
  rw [append_lt_append_iff rfl, append_lt_append_iff hlength, dateAndTime_inj,
    dateAndTime_lt_iff hs ht, List.cons_append, List.cons_append]
  simp only [List.cons_lt_cons_iff, List.lt_irrefl, Char.lt_irrefl, false_or, true_and]

/-- **Order IDs that are drawn by the clock** are ordered by the second in which they are drawn, and
in one second by the token and what is behind it. -/
theorem standard_lt_iff (hs : s.IsCivil) (ht : t.IsCivil) {u v : Uuid}
    {username username' : Option String} :
    (standard s u username).text < (standard t v username').text ↔
      s.seconds < t.seconds ∨ s.seconds = t.seconds ∧
        token u ++ userSuffix username < token v ++ userSuffix username' := by
  have hless : s.clockSecond < t.clockSecond ↔ s.seconds < t.seconds := by
    rw [hs.clockSecond_eq, ht.clockSecond_eq]
    omega
  have hsame : s.clockSecond = t.clockSecond ↔ s.seconds = t.seconds := by
    rw [hs.clockSecond_eq, ht.clockSecond_eq]
    omega
  rw [standard_lt_iff_of_year hs.year ht.year, hless, hsame]

/-- **Order IDs that are drawn by the clock are in order.** In the years from 0 to 9999 the order ID
that is drawn on an earlier second of the clock is the smaller text, whatever the tokens and the
names are. Of two instants the one in the earlier second is on the earlier second of the clock,
unless it is a leap second in the middle of a minute, which no clock shows. -/
theorem standard_lt_of_earlier (hs : 0 ≤ s.date.year ∧ s.date.year ≤ 9999)
    (ht : 0 ≤ t.date.year ∧ t.date.year ≤ 9999) (u v : Uuid) (username username' : Option String) :
    (s.clockSecond < t.clockSecond →
      (standard s u username).text < (standard t v username').text) ∧
    (s.IsClockReading → s.seconds < t.seconds →
      (standard s u username).text < (standard t v username').text) := by
  have hearlier (h : s.clockSecond < t.clockSecond) :
      (standard s u username).text < (standard t v username').text :=
    (standard_lt_iff_of_year hs ht).2 (.inl h)
  exact ⟨hearlier, fun hclock h => hearlier (hclock.clockSecond_lt h)⟩

/-- A leap second at the end of a year comes before the first second of the next year, even with the
larger token and the larger name behind it. -/
theorem standard_lt_of_leap_second :
    let s : Instant := ⟨1483228799, 1500000000, by decide⟩
    let t := Instant.ofSeconds 1483228800
    let u : Uuid := ⟨2 ^ 128 - 1, by decide⟩
    let v : Uuid := ⟨0, by decide⟩
    ((0 ≤ s.date.year ∧ s.date.year ≤ 9999) ∧ 0 ≤ t.date.year ∧ t.date.year ≤ 9999) ∧
      s.IsClockReading ∧ s.seconds < t.seconds ∧
      (standard s u (some "zoe")).text = "ord_20161231_235960_ffffffff_zoe" ∧
      (standard t v none).text = "ord_20170101_000000_00000000" ∧
      (standard s u (some "zoe")).text < (standard t v none).text := by
  intro s t u v
  have hyears : (0 ≤ s.date.year ∧ s.date.year ≤ 9999) ∧ 0 ≤ t.date.year ∧ t.date.year ≤ 9999 := by
    decide +kernel
  have hclock : s.IsClockReading := by decide +kernel
  have hless : s.seconds < t.seconds := by decide
  exact ⟨hyears, hclock, hless, by decide +kernel, by decide +kernel,
    (standard_lt_of_earlier hyears.1 hyears.2 u v (some "zoe") none).2 hclock hless⟩

end OrderId

end OrderDesk
