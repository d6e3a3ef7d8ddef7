import Mathlib.Tactic.Linarith
import Mathlib.Tactic.Positivity
import OrderDesk.Proofs.Amount

/-!
# Rounding of decimals

A result that does not fit is rounded to fewer places. Rounding never takes a result past a whole
number, so a sum of amounts that are not negative is not negative, and neither is the rest of an
amount from which no more than itself is taken away. Such a rest is always in range.

## Main definitions

* `OrderDesk.Decimal.IsRounded` — a decimal is an exact result with the fewest places dropped.

## Main results

* `OrderDesk.Decimal.ofScaled?_eq_some_iff` — what the rounding of an exact result gives.
* `OrderDesk.Decimal.nonneg_of_sum?`, `OrderDesk.Decimal.nonneg_of_difference?` — signs of rounded
  sums and differences.
* `OrderDesk.Decimal.exists_difference?` — a rest that is not negative is in range.
-/

set_option autoImplicit false

namespace OrderDesk.Decimal

/-! ## Decimals in the order of their numbers -/

/-- Decimals are compared as the numbers that they stand for. -/
theorem value_le_value {a b : Decimal} : a.value ≤ b.value ↔ a ≤ b := by
  have ha : (0 : ℚ) < 10 ^ a.scale := by positivity
  have hb : (0 : ℚ) < 10 ^ b.scale := by positivity
  rw [value, value, div_le_div_iff₀ ha hb, le_def]
  exact_mod_cast Iff.rfl

/-- Decimals are compared strictly as the numbers that they stand for. -/
theorem value_lt_value {a b : Decimal} : a.value < b.value ↔ a < b := by
  have ha : (0 : ℚ) < 10 ^ a.scale := by positivity
  have hb : (0 : ℚ) < 10 ^ b.scale := by positivity
  rw [value, value, div_lt_div_iff₀ ha hb, lt_def]
  exact_mod_cast Iff.rfl

/-- A decimal is not negative exactly if its digits are not. -/
theorem value_nonneg {a : Decimal} : 0 ≤ a.value ↔ 0 ≤ a.coefficient := by
  have ha : (0 : ℚ) < 10 ^ a.scale := by positivity
  rw [value, le_div_iff₀ ha, zero_mul]
  exact_mod_cast Iff.rfl

/-- A decimal is positive exactly if its digits are. -/
theorem value_pos {a : Decimal} : 0 < a.value ↔ 0 < a.coefficient := by
  have ha : (0 : ℚ) < 10 ^ a.scale := by positivity
  rw [value, lt_div_iff₀ ha, zero_mul]
  exact_mod_cast Iff.rfl

/-- What is at least zero is not negative. -/
theorem zero_le {a : Decimal} : zero ≤ a ↔ 0 ≤ a.coefficient := by
  simp [le_def, zero]

/-- What is written without a minus sign is not negative. -/
theorem nonneg_of_isNegative {a : Decimal} (h : a.isNegative = false) : 0 ≤ a.coefficient := by
  simp only [isNegative, Bool.or_eq_false_iff, decide_eq_false_iff_not] at h
  omega

/-! ## Rounding to an integer -/

/-- Rounding does not take a quotient past a whole number. -/
theorem roundHalfEven_le {n d m : Nat} (hd : 0 < d) (h : n ≤ m * d) : roundHalfEven n d ≤ m := by
  unfold roundHalfEven
  dsimp only
  have hdiv := Nat.div_add_mod' n d
  have hle : n / d ≤ m := Nat.div_le_of_le_mul (by rwa [Nat.mul_comm] at h)
  split
  · next hup =>
    -- something is left over, so the quotient stays below the whole number
    have hrest : 0 < n % d := by omega
    refine Nat.lt_of_le_of_ne hle ?_
    rintro rfl
    omega
  · exact hle

/-- A whole number is not rounded. -/
theorem roundHalfEven_mul {m d : Nat} (hd : 0 < d) : roundHalfEven (m * d) d = m := by
  unfold roundHalfEven
  simp [Nat.mul_div_cancel m hd, Nat.ne_of_gt hd]

/-- Digits that are not negative stay so. -/
theorem dropPlaces_nonneg {n : Int} (h : 0 ≤ n) (k : Nat) : 0 ≤ dropPlaces n k := by
  unfold dropPlaces
  rw [if_neg (Int.not_lt.2 h)]
  exact Int.natCast_nonneg _

/-- Digits up to a whole number of units stay up to it. -/
theorem dropPlaces_le {n : Int} {m k : Nat} (hn : 0 ≤ n) (h : n ≤ m * 10 ^ k) :
    dropPlaces n k ≤ m := by
  unfold dropPlaces
  rw [if_neg (Int.not_lt.2 hn)]
  refine Int.ofNat_le.2 (roundHalfEven_le (by positivity) ?_)
  have hcast : ((m * 10 ^ k : Nat) : Int) = m * 10 ^ k := by push_cast; rfl
  omega

/-- Zeros behind the digits are no matter of the sign. -/
theorem natAbs_mul_pow (n : Int) (k : Nat) : (n * 10 ^ k).natAbs = n.natAbs * 10 ^ k := by
  rw [Int.natAbs_mul, Int.natAbs_pow]
  rfl

/-- Zeros behind the digits are dropped exactly. -/
theorem dropPlaces_mul (n : Int) (k : Nat) : dropPlaces (n * 10 ^ k) k = n := by
  have hpow : (0 : Int) < 10 ^ k := by positivity
  unfold dropPlaces
  rw [natAbs_mul_pow, roundHalfEven_mul (by positivity)]
  rcases lt_or_ge n 0 with hneg | hpos
  · rw [if_pos (Int.mul_neg_of_neg_of_pos hneg hpow)]
    omega
  · rw [if_neg (Int.not_lt.2 (Int.mul_nonneg hpos hpow.le))]
    omega

/-- Some of the zeros behind the digits are dropped exactly. -/
theorem dropPlaces_mul_of_le (n : Int) {j k : Nat} (h : k ≤ j) :
    dropPlaces (n * 10 ^ j) k = n * 10 ^ (j - k) := by
  rw [← Nat.sub_add_cancel h, pow_add, ← mul_assoc, dropPlaces_mul, Nat.add_sub_cancel]

/-! ## Rounding to a decimal -/

/-- A decimal in range is made of its digits and places. -/
theorem make?_eq_some_iff {n : Int} {s : Nat} {c : Decimal} :
    make? n s = some c ↔ c.coefficient = n ∧ c.scale = s ∧ c.minusZero = false := by
  unfold make?
  constructor
  · intro h
    split at h
    · cases h
      exact ⟨rfl, rfl, rfl⟩
    · cases h
  · rintro ⟨rfl, rfl, hminus⟩
    rw [dif_pos ⟨c.natAbs_lt, c.scale_le⟩]
    cases c
    cases hminus
    rfl

/-- Digits and places in range make a decimal. -/
theorem isSome_make? {n : Int} {s : Nat} (hn : n.natAbs < 2 ^ 96) (hs : s ≤ 28) :
    (make? n s).isSome = true := by
  unfold make?
  rw [dif_pos ⟨hn, hs⟩]
  rfl

/-- A decimal **is rounded** from an exact result by dropping places, the fewest that make it
fit. -/
structure IsRounded (n : Int) (s k : Nat) (c : Decimal) : Prop where
  le : k ≤ s
  coefficient : c.coefficient = dropPlaces n k
  scale : c.scale = s - k
  minusZero : c.minusZero = false
  fewest : ∀ j < k, make? (dropPlaces n j) (s - j) = none

/-- What the rounding of an exact result gives. -/
theorem ofScaled?_eq_some_iff {n : Int} {s : Nat} {c : Decimal} :
    ofScaled? n s = some c ↔ ∃ k, IsRounded n s k c := by
  unfold ofScaled?
  rw [List.findSome?_eq_some_iff]
  constructor
  · rintro ⟨before, k, after, hrange, hmake, hfewest⟩
    have hlength : before.length < s + 1 := by
      have := congrArg List.length hrange
      simp only [List.length_range, List.length_append, List.length_cons] at this
      omega
    have hk : k = before.length := by
      have := congrArg (·[before.length]?) hrange
      simpa [hlength] using this.symm
    have hbefore : before = List.range k := by
      have := congrArg (List.take before.length) hrange
      rw [List.take_left, List.take_range, Nat.min_eq_left hlength.le, ← hk] at this
      exact this.symm
    obtain ⟨hcoefficient, hscale, hminus⟩ := make?_eq_some_iff.1 hmake
    refine ⟨k, by omega, hcoefficient, hscale, hminus, fun j hj => hfewest j ?_⟩
    exact hbefore ▸ List.mem_range.2 hj
  · rintro ⟨k, h⟩
    refine ⟨List.range k, k, (List.range (s - k)).map (k + 1 + ·), ?_,
      make?_eq_some_iff.2 ⟨h.coefficient, h.scale, h.minusZero⟩,
      fun j hj => h.fewest j (List.mem_range.1 hj)⟩
    rw [show s + 1 = k + 1 + (s - k) by have := h.le; omega, List.range_add, List.range_succ,
      List.append_assoc]
    rfl

/-- An exact result is in range if some of its roundings is. -/
theorem exists_ofScaled? {n : Int} {s k : Nat} (hk : k ≤ s) (hs : s - k ≤ 28)
    (hn : (dropPlaces n k).natAbs < 2 ^ 96) : ∃ c, ofScaled? n s = some c := by
  rw [← Option.isSome_iff_exists]
  unfold ofScaled?
  rw [List.findSome?_isSome_iff]
  exact ⟨k, List.mem_range.2 (by omega), isSome_make? hn hs⟩

/-- No more places are dropped than some that are enough. -/
theorem IsRounded.le_of_fits {n : Int} {s k j : Nat} {c : Decimal} (h : IsRounded n s k c)
    (hs : s - j ≤ 28) (hn : (dropPlaces n j).natAbs < 2 ^ 96) : k ≤ j := by
  by_contra hless
  have hsome := isSome_make? hn hs
  rw [h.fewest j (Nat.lt_of_not_le hless)] at hsome
  cases hsome

/-- The rounding of what is not negative is not negative. -/
theorem nonneg_of_ofScaled? {n : Int} {s : Nat} {c : Decimal} (hn : 0 ≤ n)
    (h : ofScaled? n s = some c) : 0 ≤ c.coefficient := by
  obtain ⟨k, hk⟩ := ofScaled?_eq_some_iff.1 h
  rw [hk.coefficient]
  exact dropPlaces_nonneg hn k

/-! ## Sums and differences -/

variable {a b c : Decimal}

/-- The digits of a sum of what is not negative are not negative. -/
theorem sumDigits_nonneg (ha : 0 ≤ a.coefficient) (hb : 0 ≤ b.coefficient) : 0 ≤ sumDigits a b := by
  unfold sumDigits
  positivity

/-- The digits of what is left are not negative if no more is taken away than there is. -/
theorem sumDigits_neg_nonneg (h : b ≤ a) : 0 ≤ sumDigits a b.neg := by
  have hdigits : (sumDigits a b.neg : ℚ) =
      (a.value - b.value) * 10 ^ max a.scale b.scale := by
    rw [← value_rescale a (Nat.le_max_left _ b.scale),
      ← value_rescale b (Nat.le_max_right a.scale _)]
    field_simp
    simp [sumDigits, neg]
    ring
  have hle := value_le_value.2 h
  have hprod : (0 : ℚ) ≤ (a.value - b.value) * 10 ^ max a.scale b.scale := by
    have : 0 ≤ a.value - b.value := by linarith
    positivity
  rw [← hdigits] at hprod
  exact_mod_cast hprod

/-- A sum of amounts that are not negative is not negative, rounded or not. -/
theorem nonneg_of_sum? (ha : 0 ≤ a.coefficient) (hb : 0 ≤ b.coefficient)
    (h : a.sum? b = some c) : 0 ≤ c.coefficient := by
  unfold sum? at h
  split at h
  · cases h
    exact hb
  split at h
  · cases h
    exact ha
  · exact nonneg_of_ofScaled? (sumDigits_nonneg ha hb) h

/-- What is left of an amount is not negative, rounded or not, if no more is taken away than there
is. -/
theorem nonneg_of_difference? (hb : 0 ≤ b.coefficient) (hle : b ≤ a)
    (h : a.difference? b = some c) : 0 ≤ c.coefficient := by
  have ha : 0 ≤ a.coefficient :=
    value_nonneg.1 ((value_nonneg.2 hb).trans (value_le_value.2 hle))
  unfold difference? sum? at h
  split at h
  · next hzero =>
    cases h
    have hsame : b.coefficient = 0 := by
      have := value_le_value.2 hle
      rw [value_of_coefficient hzero] at this
      exact le_antisymm (by simpa using mt value_pos.2 (by linarith)) hb
    simp [neg, hsame]
  split at h
  · cases h
    exact ha
  · exact nonneg_of_ofScaled? (sumDigits_neg_nonneg hle) h

/-- What is left of an amount is always in range: without the places that only the other amount has
it is no larger than the amount. -/
theorem exists_difference? (hb : 0 ≤ b.coefficient) (hle : b ≤ a) :
    ∃ c, a.difference? b = some c := by
  unfold difference? sum?
  split
  · exact ⟨_, rfl⟩
  split
  · exact ⟨_, rfl⟩
  have hdigits := sumDigits_neg_nonneg hle
  refine exists_ofScaled? (k := max a.scale b.scale - a.scale) (Nat.sub_le _ _) ?_ ?_
  · have ha := a.scale_le
    have hb := b.scale_le
    change max a.scale b.scale - (max a.scale b.scale - a.scale) ≤ 28
    omega
  · have hfits := a.natAbs_lt
    have ha : 0 ≤ a.coefficient :=
      value_nonneg.1 ((value_nonneg.2 hb).trans (value_le_value.2 hle))
    have hless : sumDigits a b.neg ≤
        (a.coefficient.natAbs : Int) * 10 ^ (max a.scale b.scale - a.scale) := by
      have hpos : 0 ≤ b.coefficient * 10 ^ (max a.scale b.scale - b.scale) := by positivity
      simp only [sumDigits, neg, Int.natAbs_of_nonneg ha, Int.neg_mul]
      omega
    have hround := dropPlaces_le hdigits hless
    have hnonneg := dropPlaces_nonneg hdigits (max a.scale b.scale - a.scale)
    change (dropPlaces (sumDigits a b.neg) (max a.scale b.scale - a.scale)).natAbs < 2 ^ 96
    omega

end OrderDesk.Decimal
