import OrderDesk.Proofs.Numeral
import OrderDesk.Proofs.Overflow
import OrderDesk.Proofs.Precision

/-!
# Numbers and their spellings

A number has many decimals, which differ in their trailing zeros. Sums and products take their
places from those of their operands, and where they do not fit they are rounded in places that
depend on it. Still the number that comes out, and whether one comes out at all, depends on the
numbers that go in and not on how they are written.

## Main results

* `OrderDesk.Decimal.map_value_ofScaled?_congr` — rounding looks at the exact number only.
* `OrderDesk.Decimal.SameNumber.sum?`, `OrderDesk.Decimal.SameNumber.difference?`,
  `OrderDesk.Decimal.SameNumber.product?` — so do sums, differences and products.
* `OrderDesk.Decimal.SameNumber.truncated_eq` — a number is written with two places in one way.
-/

set_option autoImplicit false

namespace OrderDesk.Decimal

open Text

variable {a a' b b' c : Decimal}

/-! ## The same number -/

/-- Two decimals of the same number stand for the same rational number. -/
theorem sameNumber_iff : a.SameNumber b ↔ a.value = b.value := by
  have ha : (10 : ℚ) ^ a.scale ≠ 0 := by positivity
  have hb : (10 : ℚ) ^ b.scale ≠ 0 := by positivity
  unfold SameNumber value
  rw [div_eq_div_iff ha hb]
  exact_mod_cast Iff.rfl

namespace SameNumber

/-- A decimal is of its own number. -/
theorem refl (a : Decimal) : a.SameNumber a :=
  rfl

/-- The same number the other way round. -/
theorem symm (h : a.SameNumber b) : b.SameNumber a :=
  Eq.symm h

/-- The same comparison. -/
theorem le_iff (ha : a.SameNumber a') (hb : b.SameNumber b') : a ≤ b ↔ a' ≤ b' := by
  rw [← value_le_value, ← value_le_value, sameNumber_iff.1 ha, sameNumber_iff.1 hb]

/-- The same strict comparison. -/
theorem lt_iff (ha : a.SameNumber a') (hb : b.SameNumber b') : a < b ↔ a' < b' := by
  rw [← value_lt_value, ← value_lt_value, sameNumber_iff.1 ha, sameNumber_iff.1 hb]

/-- The same sign of the digits. -/
theorem nonneg_iff (h : a.SameNumber b) : 0 ≤ a.coefficient ↔ 0 ≤ b.coefficient := by
  rw [← value_nonneg, ← value_nonneg, sameNumber_iff.1 h]

/-- The same number of places without trailing zeros. -/
theorem fractionDigits_eq (h : a.SameNumber b) : a.fractionDigits = b.fractionDigits := by
  have hplaces (k : Nat) : a.HasPlaces k ↔ b.HasPlaces k := by
    unfold HasPlaces
    rw [sameNumber_iff.1 h]
  apply le_antisymm
  · exact fractionDigits_le_iff.2 ((hplaces _).2 b.hasPlaces_fractionDigits)
  · exact fractionDigits_le_iff.2 ((hplaces _).1 a.hasPlaces_fractionDigits)

end SameNumber

/-! ## Rounding -/

/-- A quotient is rounded as it is after a common factor has been taken out. -/
theorem roundHalfEven_mul_mul (n d : Nat) {m : Nat} (hm : 0 < m) :
    roundHalfEven (n * m) (d * m) = roundHalfEven n d := by
  unfold roundHalfEven
  dsimp only
  rw [Nat.mul_div_mul_right n d hm, Nat.mul_mod_mul_right, ← Nat.mul_assoc]
  simp only [Nat.mul_lt_mul_right hm, Nat.mul_left_inj (Nat.ne_of_gt hm)]

/-- Trailing zeros are dropped before anything is rounded. -/
theorem dropPlaces_mul_pow (n : Int) (j k : Nat) :
    dropPlaces (n * 10 ^ j) (k + j) = dropPlaces n k := by
  have hpow : (0 : Int) < 10 ^ j := by positivity
  have hsign : n * 10 ^ j < 0 ↔ n < 0 := by
    constructor
    · intro h
      exact neg_of_mul_neg_left h hpow.le
    · intro h
      exact Int.mul_neg_of_neg_of_pos h hpow
  unfold dropPlaces
  rw [natAbs_mul_pow, pow_add, roundHalfEven_mul_mul _ _ (by positivity)]
  simp only [hsign]

/-- What is rounded with zeros behind the digits stands for the same number.

**Proof sketch.** Either the rounding goes beyond the zeros, and then it is the one without them;
or it does not, and then it is exact in both cases. -/
theorem value_of_isRounded_mul_pow {n : Int} {s j k i : Nat} (h : IsRounded n s k a)
    (h' : IsRounded (n * 10 ^ j) (s + j) i b) : b.value = a.value := by
  have ha := a.natAbs_lt
  have hb := b.natAbs_lt
  have hascale := a.scale_le
  have hbscale := b.scale_le
  rw [h.scale] at hascale
  rw [h'.scale] at hbscale
  rw [h.coefficient] at ha
  rw [h'.coefficient] at hb
  rcases Nat.le_total j i with hij | hij
  · -- the same places are dropped beyond the zeros
    obtain ⟨i, rfl⟩ := Nat.exists_eq_add_of_le' hij
    rw [dropPlaces_mul_pow] at hb
    have hki : k ≤ i := h.le_of_fits (by omega) hb
    have hik : i + j ≤ k + j := h'.le_of_fits (by omega) (by rwa [dropPlaces_mul_pow])
    obtain rfl : i = k := by omega
    have hscale : b.scale = a.scale := by
      rw [h'.scale, h.scale]
      omega
    rw [value, value, h'.coefficient, dropPlaces_mul_pow, ← h.coefficient, hscale]
  · -- nothing is rounded
    rw [dropPlaces_mul_of_le n hij, natAbs_mul_pow] at hb
    have hpow : 1 ≤ 10 ^ (j - i) := Nat.one_le_pow _ _ (by decide)
    have hn : n.natAbs < 2 ^ 96 := (Nat.le_mul_of_pos_right _ hpow).trans_lt hb
    obtain rfl : k = 0 := Nat.le_zero.1 (h.le_of_fits (by omega) (by rwa [dropPlaces_zero]))
    have hscale : (10 : ℚ) ^ (s + j - i) = 10 ^ s * 10 ^ (j - i) := by
      rw [← pow_add]
      congr 1
      omega
    rw [value, value, h'.coefficient, h.coefficient, h'.scale, h.scale,
      dropPlaces_mul_of_le n hij, dropPlaces_zero, Nat.sub_zero, hscale]
    push_cast
    field_simp

/-- An exact result is rounded to the same number whether or not there are zeros behind its
digits. -/
theorem map_value_ofScaled?_mul_pow (n : Int) (s j : Nat) :
    (ofScaled? (n * 10 ^ j) (s + j)).map value = (ofScaled? n s).map value := by
  have hnone : ofScaled? (n * 10 ^ j) (s + j) = none ↔ ofScaled? n s = none := by
    have hpow : 0 < 10 ^ j := by positivity
    rw [ofScaled?_eq_none_iff, ofScaled?_eq_none_iff, natAbs_mul_pow, pow_add, ← mul_assoc,
      ← mul_assoc, ← add_mul, Nat.mul_le_mul_right_iff hpow]
  cases h : ofScaled? n s with
  | none => rw [hnone.2 h]
  | some a =>
    cases h' : ofScaled? (n * 10 ^ j) (s + j) with
    | none => cases h.symm.trans (hnone.1 h')
    | some b =>
      obtain ⟨k, hk⟩ := ofScaled?_eq_some_iff.1 h
      obtain ⟨i, hi⟩ := ofScaled?_eq_some_iff.1 h'
      exact congrArg some (value_of_isRounded_mul_pow hk hi)

/-- **Rounding looks at the number only.** Two exact results that are equal are rounded to the same
number, or both are out of range. -/
theorem map_value_ofScaled?_congr {n m : Int} {s t : Nat} (h : (n : ℚ) / 10 ^ s = m / 10 ^ t) :
    (ofScaled? n s).map value = (ofScaled? m t).map value := by
  have hdigits : n * 10 ^ t = m * 10 ^ s := by
    rw [div_eq_div_iff (by positivity) (by positivity)] at h
    exact_mod_cast h
  rw [← map_value_ofScaled?_mul_pow n s t, hdigits, Nat.add_comm s t, map_value_ofScaled?_mul_pow]

/-! ## Sums, differences and products -/

/-- The number of a sum is the rounded exact sum, also where an operand is zero. -/
theorem map_value_sum? (a b : Decimal) :
    (a.sum? b).map value = (ofScaled? (sumDigits a b) (max a.scale b.scale)).map value := by
  have hexact {c : Decimal} (h : a.value + b.value = c.value) :
      (some c).map value = (ofScaled? (sumDigits a b) (max a.scale b.scale)).map value := by
    rw [value_add_value] at h
    obtain ⟨c', hc', hvalue⟩ := value_of_ofScaled? ⟨c, h.symm⟩
    rw [hc', Option.map_some, Option.map_some, hvalue, h]
  unfold sum?
  split
  · next ha =>
    apply hexact
    rw [value_of_coefficient ha, zero_add]
  split
  · next hb =>
    apply hexact
    rw [value_of_coefficient hb, add_zero]
  · rfl

/-- Zero is not rounded. -/
theorem map_value_ofScaled?_zero (s : Nat) : (ofScaled? 0 s).map value = some 0 := by
  obtain ⟨c, hc, hvalue⟩ := value_of_ofScaled? (n := 0) (s := s) ⟨zero, by simp⟩
  rw [hc, Option.map_some, hvalue, Int.cast_zero, zero_div]

/-- An exact result of few digits and many places is rounded to zero. -/
theorem map_value_ofScaled?_of_small {n : Int} {s : Nat} (hn : n.natAbs < 2 ^ 64)
    (hs : 28 + 19 < s) : (ofScaled? n s).map value = some 0 := by
  have hdrop {k : Nat} (hk : 20 ≤ k) : dropPlaces n k = 0 := by
    have hpow : 10 ^ 20 ≤ 10 ^ k := Nat.pow_le_pow_right (by decide) hk
    have hround : roundHalfEven n.natAbs (10 ^ k) = 0 := by
      unfold roundHalfEven
      dsimp only
      rw [Nat.div_eq_of_lt (by omega), Nat.mod_eq_of_lt (by omega), if_neg (by omega)]
    rw [← Int.natAbs_eq_zero, natAbs_dropPlaces, hround]
  obtain ⟨c, hc⟩ := exists_ofScaled? (n := n) (le_refl s) (by omega)
    (by rw [hdrop (by omega)]; decide)
  obtain ⟨k, hk⟩ := ofScaled?_eq_some_iff.1 hc
  have hscale := c.scale_le
  rw [hk.scale] at hscale
  rw [hc, Option.map_some, value_of_coefficient (hk.coefficient.trans (hdrop (by omega)))]

/-- The number of a product is the rounded exact product, also where an operand is zero and where
the product vanishes. -/
theorem map_value_product? (a b : Decimal) :
    (a.product? b).map value =
      (ofScaled? (a.coefficient * b.coefficient) (a.scale + b.scale)).map value := by
  unfold product?
  split
  · next h =>
    rw [Option.map_some, value_zero, eq_comm]
    rcases h with ha | hb | ⟨⟨ha, hb⟩, hscale⟩
    · rw [ha, Int.zero_mul, map_value_ofScaled?_zero]
    · rw [hb, Int.mul_zero, map_value_ofScaled?_zero]
    · have hdigits : (a.coefficient * b.coefficient).natAbs < 2 ^ 32 * 2 ^ 32 :=
        Int.natAbs_mul _ _ ▸ Nat.mul_lt_mul'' ha hb
      exact map_value_ofScaled?_of_small hdigits hscale
  · rw [Option.map_map]
    exact congrArg (Option.map · _) (funext fun c => value_withSign _ c)

/-- Two results of the same number, if there is one. -/
theorem rel_of_map_value_eq {x y : Option Decimal} (h : x.map value = y.map value) :
    Option.Rel SameNumber x y := by
  cases x with
  | none =>
    cases y with
    | none => exact .none
    | some b => cases h
  | some a =>
    cases y with
    | none => cases h
    | some b => exact .some (sameNumber_iff.2 (Option.some.inj h))

namespace SameNumber

/-- The opposite numbers. -/
theorem neg (h : a.SameNumber b) : a.neg.SameNumber b.neg := by
  rw [sameNumber_iff, value_neg, value_neg, sameNumber_iff.1 h]

/-- **Sums.** The same numbers have the same sum, or none. -/
theorem sum? (ha : a.SameNumber a') (hb : b.SameNumber b') :
    Option.Rel SameNumber (a.sum? b) (a'.sum? b') := by
  apply rel_of_map_value_eq
  rw [map_value_sum?, map_value_sum?]
  apply map_value_ofScaled?_congr
  rw [← value_add_value, ← value_add_value, sameNumber_iff.1 ha, sameNumber_iff.1 hb]

/-- **Differences.** The same numbers have the same difference, or none. -/
theorem difference? (ha : a.SameNumber a') (hb : b.SameNumber b') :
    Option.Rel SameNumber (a.difference? b) (a'.difference? b') :=
  ha.sum? hb.neg

/-- **Products.** The same numbers have the same product, or none. -/
theorem product? (ha : a.SameNumber a') (hb : b.SameNumber b') :
    Option.Rel SameNumber (a.product? b) (a'.product? b') := by
  apply rel_of_map_value_eq
  rw [map_value_product?, map_value_product?]
  apply map_value_ofScaled?_congr
  rw [value_mul_value, value_mul_value, sameNumber_iff.1 ha, sameNumber_iff.1 hb]

end SameNumber

/-! ## Two places -/

/-- One zero more behind the places. -/
theorem zeroPadded_mul_ten {s r : Nat} (hr : r < 10 ^ s) :
    zeroPadded (s + 1) (r * 10) = (if s = 0 then [] else zeroPadded s r) ++ ['0'] := by
  rcases Nat.eq_zero_or_pos s with rfl | hs
  · obtain rfl : r = 0 := by simpa using hr
    exact zeroPadded_one (by decide)
  · rw [if_neg (Nat.ne_of_gt hs), zeroPadded_succ _ hs, Nat.mul_div_cancel r (by decide),
      Nat.mul_mod_left]
    rfl

/-- Zeros behind the digits are zeros behind the places. -/
theorem places_of_mul_pow {j : Nat} (hcoefficient : b.coefficient = a.coefficient * 10 ^ j)
    (hscale : b.scale = a.scale + j) : b.places = a.places ++ List.replicate j '0' := by
  have habs : b.coefficient.natAbs % 10 ^ b.scale =
      a.coefficient.natAbs % 10 ^ a.scale * 10 ^ j := by
    rw [hcoefficient, hscale, natAbs_mul_pow, pow_add]
    exact Nat.mul_mod_mul_right _ _ _
  have hlt : a.coefficient.natAbs % 10 ^ a.scale < 10 ^ a.scale := Nat.mod_lt _ (by positivity)
  unfold places
  rw [habs, hscale]
  clear habs hcoefficient hscale
  generalize a.coefficient.natAbs % 10 ^ a.scale = r at hlt ⊢
  induction j with
  | zero => simp
  | succ j ih =>
    have hr : r * 10 ^ j < 10 ^ (a.scale + j) := by
      rw [pow_add]
      exact Nat.mul_lt_mul_of_pos_right hlt (by positivity)
    have hstep := zeroPadded_mul_ten hr
    rw [ih] at hstep
    rw [if_neg (by omega), pow_succ, ← Nat.mul_assoc, ← Nat.add_assoc, hstep,
      List.replicate_succ', List.append_assoc]

/-- Zeros behind the digits leave the integer part. -/
theorem integerPart_of_mul_pow {j : Nat} (hcoefficient : b.coefficient = a.coefficient * 10 ^ j)
    (hscale : b.scale = a.scale + j) : b.integerPart = a.integerPart := by
  unfold integerPart
  rw [hcoefficient, hscale, natAbs_mul_pow, pow_add]
  exact congrArg digits (Nat.mul_div_mul_right _ _ (by positivity))

/-- Of two decimals of the same number the one with more places has zeros behind its digits. -/
theorem SameNumber.coefficient_eq (h : a.SameNumber b) (hscale : a.scale ≤ b.scale) :
    b.coefficient = a.coefficient * 10 ^ (b.scale - a.scale) := by
  refine mul_right_cancel₀ (b := (10 : ℤ) ^ a.scale) (by positivity) ?_
  rw [mul_assoc, ← pow_add, Nat.sub_add_cancel hscale]
  exact h.symm

/-- A number that has a minus sign or none in both spellings is written with two places in one
way. -/
theorem SameNumber.truncated_eq (h : a.SameNumber b) (hsign : a.isNegative = b.isNegative) :
    a.truncated = b.truncated := by
  wlog hscale : a.scale ≤ b.scale generalizing a b
  · exact (this h.symm hsign.symm (Nat.le_of_not_le hscale)).symm
  have hcoefficient := h.coefficient_eq hscale
  have hplaces := (Nat.add_sub_cancel' hscale).symm
  have htwo : (b.places ++ ['0', '0']).take 2 = (a.places ++ ['0', '0']).take 2 := by
    have hzeros (n : Nat) : List.replicate n '0' ++ ['0', '0'] = List.replicate (n + 2) '0' := by
      rw [List.replicate_add]
      rfl
    rw [places_of_mul_pow hcoefficient hplaces, List.append_assoc, hzeros, List.take_append,
      List.take_append, List.take_replicate, show ['0', '0'] = List.replicate 2 '0' from rfl,
      List.take_replicate]
    congr 2
    omega
  unfold truncated sign
  rw [hsign, integerPart_of_mul_pow hcoefficient hplaces, htwo]

end OrderDesk.Decimal
