import Mathlib.Data.Rat.Defs
import Mathlib.Algebra.Order.Field.Rat
import Mathlib.Tactic.FieldSimp
import Mathlib.Tactic.Ring
import OrderDesk.Proofs.Stores

/-!
# Amounts as numbers

A decimal stands for a rational number. A sum or difference is exact as long as its digits fit at
the larger of the two scales, and then the decimal stands for the sum or difference of the numbers.

## Main definitions

* `OrderDesk.Decimal.value` — the number that a decimal stands for.
* `OrderDesk.Decimal.FitsSum`, `OrderDesk.Side.IsExact` — a sum or difference fits.

## Main results

* `OrderDesk.Decimal.value_of_sum?` — a sum that fits is exact.
* `OrderDesk.Side.value_of_change?` — money that is debited or credited exactly.
-/

set_option autoImplicit false

namespace OrderDesk

namespace Decimal

/-- The number that a decimal stands for. -/
def value (a : Decimal) : ℚ :=
  a.coefficient / 10 ^ a.scale

/-- Zero stands for zero. -/
@[simp]
theorem value_zero : zero.value = 0 := by
  simp [value, zero]

/-- The opposite decimal stands for the opposite number. -/
@[simp]
theorem value_neg (a : Decimal) : a.neg.value = -a.value := by
  simp [value, neg, neg_div]

/-- A decimal without digits stands for zero. -/
theorem value_of_coefficient {a : Decimal} (h : a.coefficient = 0) : a.value = 0 := by
  simp [value, h]

/-- The digits of the exact sum of two decimals, at the larger of the two scales. -/
def sumDigits (a b : Decimal) : Int :=
  a.coefficient * 10 ^ (max a.scale b.scale - a.scale) +
    b.coefficient * 10 ^ (max a.scale b.scale - b.scale)

/-- The exact sum **fits** 96 bits at the larger of the two scales. -/
def FitsSum (a b : Decimal) : Prop :=
  (sumDigits a b).natAbs < 2 ^ 96

instance (a b : Decimal) : Decidable (FitsSum a b) :=
  inferInstanceAs (Decidable ((sumDigits a b).natAbs < 2 ^ 96))

/-- Nothing is rounded away when no place is dropped. -/
theorem dropPlaces_zero (n : Int) : dropPlaces n 0 = n := by
  have hround : roundHalfEven n.natAbs (10 ^ 0) = n.natAbs := by
    simp [roundHalfEven, Nat.mod_one]
  unfold dropPlaces
  rw [hround]
  split <;> omega

/-- An exact result that fits is not rounded. -/
theorem ofScaled?_of_lt {n : Int} {s : Nat} (hn : n.natAbs < 2 ^ 96) (hs : s ≤ 28) :
    ofScaled? n s = some { coefficient := n, scale := s, natAbs_lt := hn, scale_le := hs } := by
  have hmake : make? n s = some { coefficient := n, scale := s, natAbs_lt := hn, scale_le := hs } :=
    dif_pos ⟨hn, hs⟩
  unfold ofScaled?
  rw [List.range_succ_eq_map, List.findSome?_cons, dropPlaces_zero, Nat.sub_zero, hmake]

/-- The digits of a number at a larger scale. -/
theorem value_rescale (a : Decimal) {s : Nat} (h : a.scale ≤ s) :
    (a.coefficient * 10 ^ (s - a.scale) : ℚ) / 10 ^ s = a.value := by
  unfold value
  rw [← Nat.sub_add_cancel h, pow_add, Nat.add_sub_cancel]
  field_simp

/-- A sum that fits is exact. -/
theorem value_of_sum? {a b c : Decimal} (h : FitsSum a b) (hc : a.sum? b = some c) :
    c.value = a.value + b.value := by
  unfold sum? at hc
  split at hc
  · next ha =>
    cases hc
    rw [value_of_coefficient ha, zero_add]
  split at hc
  · next hb =>
    cases hc
    rw [value_of_coefficient hb, add_zero]
  · have hscale : max a.scale b.scale ≤ 28 := Nat.max_le.2 ⟨a.scale_le, b.scale_le⟩
    have hsum := (ofScaled?_of_lt h hscale).symm.trans hc
    cases hsum
    rw [← value_rescale a (Nat.le_max_left _ b.scale),
      ← value_rescale b (Nat.le_max_right a.scale _), ← add_div]
    simp [value, sumDigits]

end Decimal

namespace Side

/-- The debit or credit of an order is **exact**: its difference or sum fits. -/
def IsExact (side : Side) (money amount : Decimal) : Prop :=
  match side with
  | buy => money.FitsSum amount.neg
  | sell => money.FitsSum amount

instance (side : Side) (money amount : Decimal) : Decidable (side.IsExact money amount) :=
  match side with
  | buy => inferInstanceAs (Decidable (money.FitsSum amount.neg))
  | sell => inferInstanceAs (Decidable (money.FitsSum amount))

/-- What an order adds to the money of its owner; an order that buys takes away. -/
def signed (side : Side) (amount : Decimal) : ℚ :=
  match side with
  | buy => -amount.value
  | sell => amount.value

/-- Money that is debited or credited exactly. -/
theorem value_of_change? {side : Side} {money amount left : Decimal}
    (h : side.IsExact money amount) (hleft : side.change? money amount = some left) :
    left.value = money.value + side.signed amount := by
  cases side with
  | buy => rw [Decimal.value_of_sum? h hleft, Decimal.value_neg, signed]
  | sell => rw [Decimal.value_of_sum? h hleft, signed]

end Side

end OrderDesk
