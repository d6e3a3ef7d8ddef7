import OrderDesk.Proofs.Calendar
import OrderDesk.Time.Rfc3339

/-!
# Instants are read back

An instant is written as a date and a time of day, field by field, and every field is read up to
its separator. What is read are the civil fields of the instant, and these are those of no other
second: the day number of the date of a day is the day again.

## Main definitions

* `OrderDesk.Instant.IsWritten` — the instants whose text has the usual width.

## Main results

* `OrderDesk.Date.ofDayNumber_spec` — a day and its date.
* `OrderDesk.Instant.readFraction?_fractionText` — decimals of a second are read back.
* `OrderDesk.Instant.ofFields?_eq` — an instant is that of its civil fields.
* `OrderDesk.Instant.read?_text` — an instant is read back.
-/

set_option autoImplicit false

namespace OrderDesk

/-! ## Days and dates -/

/-- The days of a year. -/
theorem daysBeforeYear_succ (year : Int) :
    daysBeforeYear (year + 1) =
      daysBeforeYear year + ((monthLengths year).foldr (· + ·) 0 : Nat) := by
  have hleap : (monthLengths year).foldr (· + ·) 0 = if isLeapYear year then 366 else 365 := by
    unfold monthLengths
    split <;> rfl
  rw [hleap]
  unfold daysBeforeYear
  by_cases h : isLeapYear year = true
  · rw [if_pos h]
    simp [isLeapYear] at h
    omega
  · rw [if_neg h]
    simp [isLeapYear] at h
    omega

/-- A day of the listed months is in **one of them**, behind the days of those before it. -/
theorem monthOfDay_spec {month : Nat} {lengths : List Nat} {n : Nat}
    (hn : n < lengths.foldr (· + ·) 0) :
    ∃ before length after, lengths = before ++ length :: after ∧
      (monthOfDay month lengths n).1 = month + before.length ∧
      1 ≤ (monthOfDay month lengths n).2 ∧ (monthOfDay month lengths n).2 ≤ length ∧
      before.foldr (· + ·) 0 + (monthOfDay month lengths n).2 = n + 1 := by
  induction lengths generalizing month n with
  | nil => cases hn
  | cons length lengths ih =>
    rw [List.foldr_cons] at hn
    unfold monthOfDay
    split
    · next hless =>
      exact ⟨[], length, lengths, rfl, rfl, Nat.le_add_left 1 n, hless, Nat.zero_add _⟩
    · next hmore =>
      obtain ⟨before, length', after, rfl, hmonth, hpos, hle, hsum⟩ :=
        @ih (month + 1) (n - length) (by omega)
      refine ⟨length :: before, length', after, rfl, ?_, hpos, hle, ?_⟩
      · rw [hmonth, List.length_cons]
        omega
      · rw [List.foldr_cons]
        omega

namespace Date

/-- The date of a day is a **date of the calendar**, and its day number is the day. -/
theorem ofDayNumber_spec (n : Int) :
    (ofDayNumber n).IsValid ∧ (ofDayNumber n).dayNumber = n := by
  obtain ⟨hbegin, hend⟩ := yearOfDay_spec (n + epochDay)
  rw [daysBeforeYear_succ] at hend
  obtain ⟨before, length, after, hlengths, hmonth, hpos, hle, hsum⟩ :=
    @monthOfDay_spec 1 (monthLengths (yearOfDay (n + epochDay)))
      (n + epochDay - daysBeforeYear (yearOfDay (n + epochDay))).toNat (by omega)
  change (ofDayNumber n).month = 1 + before.length at hmonth
  change 1 ≤ (ofDayNumber n).day at hpos
  change (ofDayNumber n).day ≤ length at hle
  change before.foldr (· + ·) 0 + (ofDayNumber n).day = _ at hsum
  change monthLengths (ofDayNumber n).year = _ at hlengths
  have hindex : (ofDayNumber n).month - 1 = before.length := by
    rw [hmonth, Nat.add_sub_cancel_left]
  constructor
  · refine ⟨by omega, hpos, length, ?_, hle⟩
    rw [hindex, hlengths, List.getElem?_append_right (Nat.le_refl _), Nat.sub_self]
    rfl
  · unfold dayNumber
    rw [hindex, hlengths, List.take_left]
    change daysBeforeYear (yearOfDay (n + epochDay)) + (before.foldr (· + ·) 0 : Nat) +
      (ofDayNumber n).day - 1 - epochDay = n
    omega

end Date

/-! ## Fields -/

namespace Instant

open Text

variable {rest : List Char}

/-- Nothing is cut off before a character that is not blank. -/
theorem trimStart_cons {c : Char} (hc : isBlank c = false) : trimStart (c :: rest) = c :: rest := by
  rw [trimStart, List.dropWhile_cons, hc, if_neg Bool.false_ne_true]

/-- A digit has a value and is not blank. -/
theorem of_isDigit {c : Char} (hc : c.isDigit = true) :
    (digitValue? c).isSome = true ∧ isBlank c = false := by
  have hrange := isDigit_iff.1 hc
  constructor
  · rw [digitValue?, if_pos hrange, Option.isSome_some]
  · simp [isBlank]
    omega

/-- There are no blanks before a numeral. -/
theorem trimStart_zeroPadded (width n : Nat) :
    trimStart (zeroPadded width n ++ rest) = zeroPadded width n ++ rest := by
  obtain ⟨c, cs, hcs, hdigit⟩ := exists_zeroPadded width n
  rw [hcs, List.cons_append, trimStart_cons (of_isDigit hdigit).2]

/-- All of a numeral is taken for one. -/
theorem takeWhile_zeroPadded (width n : Nat) (hrest : ∀ c ∈ rest.head?, digitValue? c = none) :
    (zeroPadded width n ++ rest).takeWhile (fun c => (digitValue? c).isSome) =
      zeroPadded width n := by
  have hall : ∀ c ∈ zeroPadded width n, (digitValue? c).isSome = true :=
    fun c hc => (of_isDigit (isDigit_of_mem_zeroPadded hc)).1
  rw [List.takeWhile_append_of_pos hall]
  cases rest with
  | nil => simp
  | cons c rest => simp [hrest c rfl]

/-- A field of a fixed width is **read back**. -/
theorem readField?_zeroPadded {width n : Nat} (hwidth : 0 < width) (hn : n < 10 ^ width) :
    readField? width (zeroPadded width n ++ rest) = some (n, rest) := by
  have hlength := length_zeroPadded hwidth hn
  have htake : (zeroPadded width n ++ rest).take width = zeroPadded width n :=
    List.take_left' hlength
  have hfield : (zeroPadded width n ++ []).takeWhile (fun c => (digitValue? c).isSome) =
      zeroPadded width n := takeWhile_zeroPadded width n (by simp)
  rw [List.append_nil] at hfield
  rw [readField?, trimStart_zeroPadded, htake, hfield, ofDigits?_zeroPadded, Option.map_some,
    List.drop_left]

/-- A year of four digits is **read back**. -/
theorem readYear?_zeroPadded {n : Nat} (hn : n < 10 ^ 4) :
    readYear? (zeroPadded 4 n ++ rest) = some ((n : Int), rest) := by
  obtain ⟨c, cs, hcs, hdigit⟩ := exists_zeroPadded 4 n
  unfold readYear?
  rw [trimStart_zeroPadded]
  split
  · next heq =>
    rw [hcs] at heq
    exact (ne_of_isDigit hdigit (by decide) (List.cons.inj heq).1).elim
  · next heq =>
    rw [hcs] at heq
    exact (ne_of_isDigit hdigit (by decide) (List.cons.inj heq).1).elim
  · rw [readField?_zeroPadded (by decide) hn, Option.map_some]

/-- Decimals of a second are read back, with zeros for the places that are not written. -/
theorem readFraction?_zeroPadded {places n : Nat} (hplaces : 0 < places) (hmost : places ≤ 9)
    (hn : n < 10 ^ places) (hrest : ∀ c ∈ rest.head?, digitValue? c = none) :
    readFraction? ('.' :: (zeroPadded places n ++ rest)) =
      some (n * 10 ^ (9 - places), rest) := by
  have hlength := length_zeroPadded hplaces hn
  have hne : (zeroPadded places n).isEmpty = false := by simp [zeroPadded, digits_ne_nil]
  have hnine : (zeroPadded places n ++ List.replicate 9 '0').take 9 =
      zeroPadded places n ++ List.replicate (9 - places) '0' := by
    rw [List.take_append, hlength, List.take_of_length_le (by omega), List.take_replicate,
      Nat.min_eq_left (Nat.sub_le 9 places)]
  have hread := ofDigits?_zeroPadded places n
  rw [ofDigits?, hne, if_neg Bool.false_ne_true] at hread
  have hvalue : ofDigits? (zeroPadded places n ++ List.replicate (9 - places) '0') =
      some (n * 10 ^ (9 - places)) := by
    rw [ofDigits?, if_neg (by simpa using fun h => absurd hne (by simp [h])),
      continueDigits?_append, hread, Option.bind_some, continueDigits?_replicate]
  rw [readFraction?, takeWhile_zeroPadded places n hrest, hne, if_neg Bool.false_ne_true, hnine,
    hvalue, Option.map_some, List.drop_left]

/-- Decimals of a second are **read back**. -/
theorem readFraction?_fractionText {nanos : Nat} (hnanos : nanos < 1000000000)
    (hrest : ∀ c ∈ rest.head?, digitValue? c = none ∧ c ≠ '.') :
    readFraction? (fractionText nanos ++ rest) = some (nanos, rest) := by
  have hdigits (c : Char) (hc : c ∈ rest.head?) : digitValue? c = none := (hrest c hc).1
  unfold fractionText
  split_ifs with hzero hmillis hmicros
  · rw [hzero, List.nil_append]
    unfold readFraction?
    split
    · exact ((hrest '.' rfl).2 rfl).elim
    · rfl
  · rw [List.cons_append, readFraction?_zeroPadded (by decide) (by decide) (by omega) hdigits]
    congr 2
    omega
  · rw [List.cons_append, readFraction?_zeroPadded (by decide) (by decide) (by omega) hdigits]
    congr 2
    omega
  · rw [List.cons_append, readFraction?_zeroPadded (by decide) (by decide) hnanos hdigits]
    simp

/-- A separator is passed. -/
theorem skipSeparator?_cons {c : Char} (hc : isBlank c = false) :
    skipSeparator? c (c :: rest) = some rest := by
  rw [skipSeparator?, trimStart_cons hc]
  exact if_pos rfl

/-! ## Instants -/

/-- An instant **has a written form** of the usual width if its year has four digits. A leap second
is written as second 60, so that it has one at the end of a minute only. -/
structure IsWritten (t : Instant) : Prop where
  year : 0 ≤ t.date.year ∧ t.date.year ≤ 9999
  clock : t.IsClockReading

instance (t : Instant) : Decidable t.IsWritten :=
  decidable_of_iff ((0 ≤ t.date.year ∧ t.date.year ≤ 9999) ∧ t.IsClockReading)
    ⟨fun h => ⟨h.1, h.2⟩, fun h => ⟨h.year, h.clock⟩⟩

variable {t : Instant}

/-- The seconds of the years of four digits can be read. -/
theorem isReadable_of_year (h : 0 ≤ t.date.year ∧ t.date.year ≤ 9999) :
    isReadable t.seconds = true := by
  have hyear := yearOfDay_spec (t.seconds / 86400 + epochDay)
  change daysBeforeYear t.date.year ≤ _ ∧ _ < daysBeforeYear (t.date.year + 1) at hyear
  have hfirst := daysBeforeYear_le h.1
  have hlast := daysBeforeYear_le (show t.date.year + 1 ≤ 10000 by omega)
  have hbounds : Date.dayNumber ⟨firstYear, 1, 1⟩ ≤ -719528 ∧
      2932897 ≤ Date.dayNumber ⟨lastYear + 1, 1, 1⟩ := by decide +kernel
  have hconstants : daysBeforeYear 0 = 0 ∧ daysBeforeYear 10000 = 3652425 ∧ epochDay = 719528 := by
    decide
  simp only [isReadable, Bool.and_eq_true, decide_eq_true_eq]
  omega

/-- **An instant is that of its civil fields.** -/
theorem ofFields?_eq (h : t.IsWritten) :
    ofFields? t.date t.hour t.minute t.shownSecond (t.nanos % 1000000000) 0 = some t := by
  obtain ⟨hvalid, hday⟩ := Date.ofDayNumber_spec (t.seconds / 86400)
  change t.date.IsValid at hvalid
  change t.date.dayNumber = _ at hday
  have hyear : firstYear ≤ t.date.year ∧ t.date.year ≤ lastYear := by
    have := h.year
    unfold firstYear lastYear
    omega
  have hclock := h.clock
  have hnanos := t.nanos_lt
  have hhour : t.hour < 24 := by
    unfold hour secondOfDay
    omega
  have hminute : t.minute < 60 := by
    unfold minute
    omega
  have hsecond : t.second < 60 := by
    unfold second
    omega
  have hseconds : 86400 * t.date.dayNumber + 3600 * t.hour + 60 * t.minute + t.second =
      t.seconds := by
    rw [hday]
    unfold hour minute second secondOfDay
    omega
  -- A leap second is shown as second 60, and belongs to second 59.
  have hshown : (if t.shownSecond = 60 then 59 else t.shownSecond) = t.second ∧
      (if t.shownSecond = 60 then t.nanos % 1000000000 + 1000000000 else t.nanos % 1000000000) =
        t.nanos := by
    unfold IsClockReading at hclock
    unfold shownSecond
    split <;> omega
  rw [ofFields?, if_pos ⟨hvalid, hyear.1, hyear.2, hhour, hminute, t.shownSecond_le⟩]
  simp only [hshown.1, hshown.2, hseconds, Int.sub_zero, isReadable_of_year h.year, Bool.not_true,
    Bool.false_eq_true, if_false, dif_pos (Nat.mod_lt t.nanos (show 0 < 1000000000 by decide))]

/-- An instant is **read back** from its text.

**Proof sketch.** Every field is read up to the next separator, and the decimals up to the letter
behind them. The civil fields that have been read are those of the instant only. -/
theorem read?_text (h : t.IsWritten) : read? t.text = some t := by
  obtain ⟨hmonth, hday, hhour, hminute, hsecond⟩ := OrderId.fields_lt t
  have hyear : t.date.year.natAbs < 10 ^ 4 := by
    have := h.year
    omega
  have hnanos : t.nanos % 1000000000 < 1000000000 := Nat.mod_lt _ (by decide)
  have htwo : 0 < 2 := by decide
  have hletter : ∀ c ∈ ['Z'].head?, digitValue? c = none ∧ c ≠ '.' := by simp [digitValue?]
  have hend : readOffset? ['Z'] = some (0, []) := rfl
  have hchars : t.chars = zeroPadded 4 t.date.year.natAbs ++ '-' :: (zeroPadded 2 t.date.month ++
      '-' :: (zeroPadded 2 t.date.day ++ 'T' :: (zeroPadded 2 t.hour ++
        ':' :: (zeroPadded 2 t.minute ++ ':' :: (zeroPadded 2 t.shownSecond ++
          (fractionText (t.nanos % 1000000000) ++ ['Z'])))))) := by
    simp [chars, dateText, timeText, OrderId.yearText_eq h.year, shownSecond]
  have hfields := ofFields?_eq h
  have hdash : isBlank '-' = false := by decide
  have hcolon : isBlank ':' = false := by decide
  have hdate : (⟨(t.date.year.natAbs : Int), t.date.month, t.date.day⟩ : Date) = t.date := by
    rw [show (t.date.year.natAbs : Int) = t.date.year by have := h.year; omega]
  rw [read?, text, String.toList_ofList, hchars]
  refine Option.bind_eq_some_iff.2 ⟨_, readYear?_zeroPadded hyear, ?_⟩
  refine Option.bind_eq_some_iff.2 ⟨_, skipSeparator?_cons hdash, ?_⟩
  refine Option.bind_eq_some_iff.2 ⟨_, readField?_zeroPadded htwo hmonth, ?_⟩
  refine Option.bind_eq_some_iff.2 ⟨_, skipSeparator?_cons hdash, ?_⟩
  refine Option.bind_eq_some_iff.2 ⟨_, readField?_zeroPadded htwo hday, ?_⟩
  -- The letter between the date and the time of day is passed by computation.
  refine Option.bind_eq_some_iff.2 ⟨_, readField?_zeroPadded htwo hhour, ?_⟩
  refine Option.bind_eq_some_iff.2 ⟨_, skipSeparator?_cons hcolon, ?_⟩
  refine Option.bind_eq_some_iff.2 ⟨_, readField?_zeroPadded htwo hminute, ?_⟩
  refine Option.bind_eq_some_iff.2 ⟨_, skipSeparator?_cons hcolon, ?_⟩
  refine Option.bind_eq_some_iff.2 ⟨_, readField?_zeroPadded htwo hsecond, ?_⟩
  refine Option.bind_eq_some_iff.2 ⟨_, readFraction?_fractionText hnanos hletter, ?_⟩
  refine Option.bind_eq_some_iff.2 ⟨_, hend, ?_⟩
  rw [← hdate] at hfields
  exact hfields

end Instant

end OrderDesk
