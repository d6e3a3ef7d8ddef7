/-!
# Decimal numbers

Amounts, prices and quantities are decimal numbers of at most 96 bits and 28 places. A decimal keeps
its trailing zeros: `1.5` and `1.50` are different decimals of the same number. Comparison looks at
the number; sums and products are exact as long as the result fits, and are rounded half to even on
the last place that fits otherwise. A product of long digits keeps its sign when it is rounded to
zero, so that there is a zero with a minus sign.

## Main definitions

* `OrderDesk.Decimal`: a coefficient and a number of places.
* `OrderDesk.Decimal.ofScaled?`: the decimal of an exact result, with the fewest places dropped.
* `OrderDesk.Decimal.sum?`, `OrderDesk.Decimal.product?`: addition and multiplication; `none` when
  the result is out of range.
* `OrderDesk.Decimal.fractionDigits`: the places that are left without trailing zeros.
-/

set_option autoImplicit false

namespace OrderDesk

-- A power is that of the numbers themselves, also where numbers are known as a monoid.
attribute [default_instance 20000, instance (20000)] instPowNat

/-- The number `coefficient / 10 ^ scale`. -/
structure Decimal where
  /-- All digits, as an integer. -/
  coefficient : Int
  /-- How many of the digits are decimal places. -/
  scale : Nat
  /-- A zero that is left of a negative number. -/
  minusZero : Bool := false
  natAbs_lt : coefficient.natAbs < 2 ^ 96 := by decide
  scale_le : scale ≤ 28 := by decide
  eq_zero_of_minusZero : minusZero = true → coefficient = 0 := by simp
deriving DecidableEq

namespace Decimal

/-- The decimal with the given digits and places, if it is in range. -/
def make? (coefficient : Int) (scale : Nat) : Option Decimal :=
  if h : coefficient.natAbs < 2 ^ 96 ∧ scale ≤ 28 then
    some { coefficient, scale, natAbs_lt := h.1, scale_le := h.2 }
  else none

/-- The number zero, without places. -/
def zero : Decimal :=
  { coefficient := 0, scale := 0 }

instance : Inhabited Decimal :=
  ⟨zero⟩

/-- A whole number is written without places. -/
instance (n : Nat) : OfNat Decimal n :=
  ⟨(make? n 0).getD zero⟩

/-- The places of a number are those that are written: `1.50` is not `1.5`. -/
instance : OfScientific Decimal where
  ofScientific digits isNegative exponent :=
    (if isNegative then make? digits exponent else make? (digits * 10 ^ exponent) 0).getD zero

/-! ## Order -/

/-- Comparison by number: `a / 10 ^ s ≤ b / 10 ^ t` says `a * 10 ^ t ≤ b * 10 ^ s`. -/
instance : LE Decimal :=
  ⟨fun a b => a.coefficient * 10 ^ b.scale ≤ b.coefficient * 10 ^ a.scale⟩

/-- The strict comparison by number. -/
instance : LT Decimal :=
  ⟨fun a b => a.coefficient * 10 ^ b.scale < b.coefficient * 10 ^ a.scale⟩

instance (a b : Decimal) : Decidable (a ≤ b) :=
  inferInstanceAs (Decidable (a.coefficient * 10 ^ b.scale ≤ b.coefficient * 10 ^ a.scale))

instance (a b : Decimal) : Decidable (a < b) :=
  inferInstanceAs (Decidable (a.coefficient * 10 ^ b.scale < b.coefficient * 10 ^ a.scale))

/-- Two decimals of the same number. -/
def SameNumber (a b : Decimal) : Prop :=
  a.coefficient * 10 ^ b.scale = b.coefficient * 10 ^ a.scale

instance (a b : Decimal) : Decidable (a.SameNumber b) :=
  inferInstanceAs (Decidable (a.coefficient * 10 ^ b.scale = b.coefficient * 10 ^ a.scale))

/-- The decimal is written with a minus sign. -/
def isNegative (a : Decimal) : Bool :=
  a.coefficient < 0 || a.minusZero

/-! ## Rounding -/

/-- The quotient `n / d` rounded to the nearest integer, a half to the even neighbour. -/
def roundHalfEven (n d : Nat) : Nat :=
  let quotient := n / d
  let remainder := n % d
  if d < 2 * remainder ∨ (d = 2 * remainder ∧ quotient % 2 = 1) then quotient + 1 else quotient

/-- The coefficient with its last `k` places rounded away. -/
def dropPlaces (n : Int) (k : Nat) : Int :=
  if n < 0 then -(roundHalfEven n.natAbs (10 ^ k) : Int) else roundHalfEven n.natAbs (10 ^ k)

/-- A zero that is left of a negative number gets its sign. -/
def withSign (negative : Bool) (a : Decimal) : Decimal :=
  if h : negative = true ∧ a.coefficient = 0 then
    { a with minusZero := true, eq_zero_of_minusZero := fun _ => h.2 }
  else a

/-- The decimal of `n / 10 ^ s`, with the fewest places rounded away that make it fit; `none` when
its integer part is too large. -/
def ofScaled? (n : Int) (s : Nat) : Option Decimal :=
  (List.range (s + 1)).findSome? fun k => make? (dropPlaces n k) (s - k)

/-! ## Arithmetic -/

/-- The number with the opposite sign; a zero stays as it is. -/
def neg (a : Decimal) : Decimal :=
  { a with
    coefficient := -a.coefficient
    natAbs_lt := by have := a.natAbs_lt; omega
    eq_zero_of_minusZero := fun h => by have := a.eq_zero_of_minusZero h; omega }

/-- The sum, with the places of the operand that has more. An operand that is zero leaves the other
one as it is written. -/
def sum? (a b : Decimal) : Option Decimal :=
  if a.coefficient = 0 then some b
  else if b.coefficient = 0 then some a
  else
    let scale := max a.scale b.scale
    ofScaled?
      (a.coefficient * 10 ^ (scale - a.scale) + b.coefficient * 10 ^ (scale - b.scale)) scale

/-- The difference `a - b`. -/
def difference? (a b : Decimal) : Option Decimal :=
  sum? a b.neg

/-- The digits of both numbers have at most 32 bits. -/
def AreShort (a b : Decimal) : Prop :=
  a.coefficient.natAbs < 2 ^ 32 ∧ b.coefficient.natAbs < 2 ^ 32

instance (a b : Decimal) : Decidable (AreShort a b) :=
  inferInstanceAs (Decidable (_ ∧ _))

/-- Short digits with so many places that none of their 20-digit product is left: it has more than
19 places beyond the 28 that a decimal has. -/
def Vanishes (a b : Decimal) : Prop :=
  AreShort a b ∧ 28 + 19 < a.scale + b.scale

instance (a b : Decimal) : Decidable (Vanishes a b) :=
  inferInstanceAs (Decidable (_ ∧ _))

/-- The product, with the places of both operands. A product with zero is zero without places, and
so is one that vanishes. Only a product of digits that are not short keeps its sign as a zero. -/
def product? (a b : Decimal) : Option Decimal :=
  if a.coefficient = 0 ∨ b.coefficient = 0 ∨ Vanishes a b then some zero
  else
    let n := a.coefficient * b.coefficient
    (ofScaled? n (a.scale + b.scale)).map (withSign (n < 0 && !decide (AreShort a b)))

/-- The places that are left when trailing zeros are not written. -/
def fractionDigits (a : Decimal) : Nat :=
  ((List.range a.scale).find? fun k => a.coefficient % 10 ^ (a.scale - k) == 0).getD a.scale

/-! ## Small facts -/

/-- Comparison by number does not depend on how the numbers are written. -/
theorem le_def {a b : Decimal} :
    a ≤ b ↔ a.coefficient * 10 ^ b.scale ≤ b.coefficient * 10 ^ a.scale :=
  Iff.rfl

/-- One decimal is less than another if its digits are, in the places of both. -/
theorem lt_def {a b : Decimal} :
    a < b ↔ a.coefficient * 10 ^ b.scale < b.coefficient * 10 ^ a.scale :=
  Iff.rfl

/-- What is not at most another number is above it. -/
theorem not_le {a b : Decimal} : ¬a ≤ b ↔ b < a := by
  simp [le_def, lt_def]

/-- What is not less than another number is at least that number. -/
theorem not_lt {a b : Decimal} : ¬a < b ↔ b ≤ a := by
  simp [le_def, lt_def]

/-- A half goes to the even neighbour. -/
example : roundHalfEven 25 10 = 2 ∧ roundHalfEven 35 10 = 4 ∧ roundHalfEven 26 10 = 3 := by decide

end Decimal

end OrderDesk
