import OrderDesk.Text.Blank
import OrderDesk.Time.Instant

/-!
# RFC 3339 times

Instants are written in UTC with the fewest of no, three, six or nine decimals that are exact. The
reader takes any offset, blanks between the parts, one-digit fields, a signed year and a leap
second.

## Main definitions

* `OrderDesk.Instant.text`: the written form.
* `OrderDesk.Instant.read?`: the instant of a text.
-/

set_option autoImplicit false

namespace OrderDesk.Instant

open Text

/-! ## Writing -/

/-- The decimals of a second. -/
def fractionText (nanos : Nat) : List Char :=
  if nanos = 0 then []
  else if nanos % 1000000 = 0 then '.' :: zeroPadded 3 (nanos / 1000000)
  else if nanos % 1000 = 0 then '.' :: zeroPadded 6 (nanos / 1000)
  else '.' :: zeroPadded 9 nanos

/-- The date, as year, month and day. -/
def dateText (d : Date) : List Char :=
  yearText d.year ++ '-' :: zeroPadded 2 d.month ++ '-' :: zeroPadded 2 d.day

/-- The time of day; a leap second is written as second 60. -/
def timeText (t : Instant) : List Char :=
  zeroPadded 2 t.hour ++ ':' :: zeroPadded 2 t.minute ++ ':' ::
    zeroPadded 2 (t.second + t.nanos / 1000000000) ++ fractionText (t.nanos % 1000000000)

/-- The instant in UTC. -/
def chars (t : Instant) : List Char :=
  dateText t.date ++ 'T' :: t.timeText ++ ['Z']

/-- The instant in UTC, as text. -/
def text (t : Instant) : String :=
  String.ofList t.chars

/-! ## Reading -/

/-- A number of one to `width` digits behind blanks, and what follows it. -/
def readField? (width : Nat) (cs : List Char) : Option (Nat × List Char) :=
  let cs := trimStart cs
  let field := (cs.take width).takeWhile fun c => (digitValue? c).isSome
  (ofDigits? field).map fun n => (n, cs.drop field.length)

/-- A year of up to four digits, or of any number of digits behind a sign. -/
def readYear? (cs : List Char) : Option (Int × List Char) :=
  match trimStart cs with
  | '-' :: ds => (signed ds).map fun (n, rest) => (-(n : Int), rest)
  | '+' :: ds => (signed ds).map fun (n, rest) => ((n : Int), rest)
  | ds => (readField? 4 ds).map fun (n, rest) => ((n : Int), rest)
where
  /-- The digits behind the sign follow it directly. -/
  signed (ds : List Char) : Option (Nat × List Char) :=
    let field := ds.takeWhile fun c => (digitValue? c).isSome
    ((ofDigits? field).filter (· < 2 ^ 63)).map fun n => (n, ds.drop field.length)

/-- The rest behind a separator that may have blanks before it. -/
def skipSeparator? (separator : Char) (cs : List Char) : Option (List Char) :=
  match trimStart cs with
  | c :: rest => if c = separator then some rest else none
  | [] => none

/-- The nanoseconds of the decimals of a second, and what follows them. Decimals after the ninth are
not looked at. -/
def readFraction? (cs : List Char) : Option (Nat × List Char) :=
  match cs with
  | '.' :: ds =>
    let field := ds.takeWhile fun c => (digitValue? c).isSome
    let nine := (field ++ List.replicate 9 '0').take 9
    if field.isEmpty then none
    else (ofDigits? nine).map fun n => (n, ds.drop field.length)
  | _ => some (0, cs)

/-- The value of two digits at the start of a text, and what follows them. -/
def readTwoDigits? (cs : List Char) : Option (Nat × List Char) :=
  match cs with
  | a :: b :: rest => (ofDigits? [a, b]).map fun n => (n, rest)
  | _ => none

/-- The offset from UTC in seconds: a letter for UTC itself, or a sign, two digits of hours and two
of minutes, with colons or blanks between them. -/
def readOffset? (cs : List Char) : Option (Int × List Char) :=
  match trimStart cs with
  | 'Z' :: rest => some (0, rest)
  | 'z' :: rest => some (0, rest)
  | a :: b :: c :: rest =>
    if [a, b, c].map Char.toUpper = ['U', 'T', 'C'] then some (0, rest)
    else if a = '+' then hoursAndMinutes (b :: c :: rest)
    else if a = '-' ∨ a = '\u2212' then
      (hoursAndMinutes (b :: c :: rest)).map fun (n, rest) => (-n, rest)
    else none
  | _ => none
where
  /-- The seconds of an offset of less than a day. -/
  hoursAndMinutes (cs : List Char) : Option (Int × List Char) := do
    let (hours, cs) ← readTwoDigits? cs
    let (minutes, rest) ← readTwoDigits? (cs.dropWhile fun c => c == ':' || isBlank c)
    if hours < 24 ∧ minutes < 60 then some ((3600 * hours + 60 * minutes : Nat), rest) else none

/-- The first year that can be read. -/
def firstYear : Int := -262143

/-- The last year that can be read. -/
def lastYear : Int := 262142

/-- The seconds of the years that can be read. -/
def isReadable (seconds : Int) : Bool :=
  86400 * Date.dayNumber ⟨firstYear, 1, 1⟩ ≤ seconds &&
    seconds < 86400 * Date.dayNumber ⟨lastYear + 1, 1, 1⟩

/-- The instant of civil fields, an offset and nanoseconds; second 60 is a leap second. Both the
civil date and the instant lie in the years that can be read. -/
def ofFields? (date : Date) (hour minute second nanos : Nat) (offset : Int) : Option Instant :=
  if date.IsValid ∧ firstYear ≤ date.year ∧ date.year ≤ lastYear ∧ hour < 24 ∧ minute < 60 ∧
      second ≤ 60 then
    let leap := second = 60
    let seconds : Int := 86400 * date.dayNumber + 3600 * hour + 60 * minute +
      (if leap then 59 else second) - offset
    if !isReadable seconds then none
    else if h : nanos < 1000000000 then
      some ⟨seconds, if leap then nanos + 1000000000 else nanos, by split <;> omega⟩
    else none
  else none

/-- The instant of a text that holds nothing else. -/
def readChars? (cs : List Char) : Option Instant := do
  let (year, cs) ← readYear? cs
  let (month, cs) ← readField? 2 (← skipSeparator? '-' cs)
  let (day, cs) ← readField? 2 (← skipSeparator? '-' cs)
  let cs ← match cs with
    | c :: rest => if c = 'T' ∨ c = 't' ∨ c = ' ' then some rest else none
    | [] => none
  let (hour, cs) ← readField? 2 cs
  let (minute, cs) ← readField? 2 (← skipSeparator? ':' cs)
  let (second, cs) ← readField? 2 (← skipSeparator? ':' cs)
  let (nanos, cs) ← readFraction? cs
  let (offset, rest) ← readOffset? cs
  if (trimStart rest).isEmpty then ofFields? ⟨year, month, day⟩ hour minute second nanos offset
  else none

/-- The instant of a text. -/
def read? (s : String) : Option Instant :=
  readChars? s.toList

example : (read? "2026-1-9T1:2:3.25+01:00").map text = some "2026-01-09T00:02:03.250Z" := by
  decide +kernel

example : read? "2026-02-29T00:00:00Z" = none := by decide +kernel

end OrderDesk.Instant
