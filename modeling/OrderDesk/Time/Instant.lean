import OrderDesk.Time.Calendar

/-!
# Instants

Points in time on the UTC scale, to the nanosecond.

## Main definitions

* `OrderDesk.Instant`: seconds since 1970 and nanoseconds.
* `OrderDesk.Instant.plusDays`: a whole number of days later.
* `OrderDesk.Instant.date`, `OrderDesk.Instant.secondOfDay`: the civil reading.
-/

set_option autoImplicit false

namespace OrderDesk

/-- A point in time. From `10 ^ 9` on, the nanoseconds tell of a leap second behind `seconds`. -/
structure Instant where
  /-- Seconds since the start of 1970, leap seconds not counted. -/
  seconds : Int
  nanos : Nat
  nanos_lt : nanos < 2000000000
deriving DecidableEq

namespace Instant

instance : Inhabited Instant :=
  ⟨0, 0, by decide⟩

/-- The start of a second. -/
def ofSeconds (seconds : Int) : Instant :=
  ⟨seconds, 0, by decide⟩

/-- Earlier seconds come first, within a second earlier nanoseconds. -/
instance : LT Instant :=
  ⟨fun a b => a.seconds < b.seconds ∨ (a.seconds = b.seconds ∧ a.nanos < b.nanos)⟩

/-- The order of instants with equality. -/
instance : LE Instant :=
  ⟨fun a b => a.seconds < b.seconds ∨ (a.seconds = b.seconds ∧ a.nanos ≤ b.nanos)⟩

instance (a b : Instant) : Decidable (a < b) :=
  inferInstanceAs (Decidable (a.seconds < b.seconds ∨ (a.seconds = b.seconds ∧ a.nanos < b.nanos)))

instance (a b : Instant) : Decidable (a ≤ b) :=
  inferInstanceAs (Decidable (a.seconds < b.seconds ∨ (a.seconds = b.seconds ∧ a.nanos ≤ b.nanos)))

/-- An instant is earlier by its second or, within one second, by its nanoseconds. -/
theorem lt_def {a b : Instant} :
    a < b ↔ a.seconds < b.seconds ∨ (a.seconds = b.seconds ∧ a.nanos < b.nanos) :=
  Iff.rfl

/-- An instant is no later by its second or, within one second, by its nanoseconds. -/
theorem le_def {a b : Instant} :
    a ≤ b ↔ a.seconds < b.seconds ∨ (a.seconds = b.seconds ∧ a.nanos ≤ b.nanos) :=
  Iff.rfl

/-- Of two instants, one is no later or the other is earlier. -/
theorem not_le {a b : Instant} : ¬a ≤ b ↔ b < a := by
  simp only [le_def, lt_def]
  omega

/-- The instant a whole number of seconds later; a leap second is left for the second after it. -/
def plusSeconds (t : Instant) (n : Int) : Instant :=
  if n ≤ 0 then ⟨t.seconds + n, t.nanos, t.nanos_lt⟩
  else ⟨t.seconds + n, t.nanos % 1000000000, by omega⟩

/-- The instant a whole number of days of 86400 seconds later. -/
def plusDays (t : Instant) (days : Int) : Instant :=
  t.plusSeconds (86400 * days)

/-- The civil date. -/
def date (t : Instant) : Date :=
  Date.ofDayNumber (t.seconds / 86400)

/-- The seconds since midnight. -/
def secondOfDay (t : Instant) : Nat :=
  (t.seconds % 86400).toNat

/-- The hour, from 0 to 23. -/
def hour (t : Instant) : Nat :=
  t.secondOfDay / 3600

/-- The minute, from 0 to 59. -/
def minute (t : Instant) : Nat :=
  t.secondOfDay / 60 % 60

/-- The second, from 0 to 59; a leap second belongs to the second before it. -/
def second (t : Instant) : Nat :=
  t.secondOfDay % 60

/-- Later by a positive number of days is strictly later. -/
theorem lt_plusDays (t : Instant) {days : Int} (h : 0 < days) : t < t.plusDays days := by
  simp only [lt_def, plusDays, plusSeconds]
  split <;> (left; simp only; omega)

end Instant

end OrderDesk
