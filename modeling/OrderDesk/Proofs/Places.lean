import OrderDesk.Proofs.Rounding

/-!
# Places of decimals and exact products

How many places a number needs does not depend on how it is written. A product is exact, in however
many places its operands are written, as long as its own digits fit: then only zeros are rounded
away.

## Main definitions

* `OrderDesk.Decimal.HasPlaces` — a number can be written with so many places.
* `OrderDesk.Decimal.IsDecimal` — a number for which a decimal stands.

## Main results

* `OrderDesk.Decimal.fractionDigits_le_iff` — the places that are left without trailing zeros are
  those that the number needs.
* `OrderDesk.Decimal.isNegative_of_product?` — a product of amounts that are not negative has no
  minus sign.
* `OrderDesk.Decimal.exists_product?_of_isDecimal`, `OrderDesk.Decimal.value_of_product?` — a
  product that is a decimal is exact, and so is one whose digits fit.
-/

set_option autoImplicit false

namespace OrderDesk.Decimal

/-! ## Places -/

/-- The number **has places**: it can be written with at most `k` of them. -/
def HasPlaces (a : Decimal) (k : Nat) : Prop :=
  ∃ n : ℤ, a.value * 10 ^ k = n

variable {a b c : Decimal} {j k : Nat}

/-- A number can be written with more places. -/
theorem HasPlaces.mono (h : a.HasPlaces j) (hjk : j ≤ k) : a.HasPlaces k := by
  obtain ⟨n, hn⟩ := h
  refine ⟨n * 10 ^ (k - j), ?_⟩
  rw [← Nat.add_sub_cancel' hjk, pow_add, ← mul_assoc, hn, Nat.add_sub_cancel_left]
  push_cast
  rfl

/-- A number can be written with fewer places than it is if only zeros are left out. -/
theorem hasPlaces_iff_dvd (h : k ≤ a.scale) :
    a.HasPlaces k ↔ (10 : ℤ) ^ (a.scale - k) ∣ a.coefficient := by
  have hvalue : a.value * 10 ^ k * 10 ^ (a.scale - k) = a.coefficient := by
    rw [mul_assoc, ← pow_add, Nat.add_sub_cancel' h, value]
    field_simp
  constructor
  · rintro ⟨n, hn⟩
    rw [hn] at hvalue
    exact ⟨n, by rw [mul_comm]; exact_mod_cast hvalue.symm⟩
  · rintro ⟨n, hn⟩
    refine ⟨n, ?_⟩
    have hpow : (10 : ℚ) ^ (a.scale - k) ≠ 0 := by positivity
    refine mul_right_cancel₀ hpow ?_
    rw [hvalue, hn]
    push_cast
    ring

/-- A number can be written as it is. -/
theorem hasPlaces_scale (a : Decimal) : a.HasPlaces a.scale := by
  rw [hasPlaces_iff_dvd le_rfl, Nat.sub_self, pow_zero]
  exact one_dvd _

/-- The places that are left without trailing zeros are enough. -/
theorem hasPlaces_fractionDigits (a : Decimal) : a.HasPlaces a.fractionDigits := by
  unfold fractionDigits
  cases hfind : (List.range a.scale).find? fun k => a.coefficient % 10 ^ (a.scale - k) == 0 with
  | none => exact a.hasPlaces_scale
  | some k =>
    obtain ⟨hzero, hmem, -⟩ := List.find?_range_eq_some.1 hfind
    refine (hasPlaces_iff_dvd (List.mem_range.1 hmem).le).2 ?_
    exact Int.dvd_of_emod_eq_zero (beq_iff_eq.1 hzero)

/-- No more places are left without trailing zeros than there are. -/
theorem fractionDigits_le_scale (a : Decimal) : a.fractionDigits ≤ a.scale := by
  unfold fractionDigits
  cases hfind : (List.range a.scale).find? fun k => a.coefficient % 10 ^ (a.scale - k) == 0 with
  | none => exact le_rfl
  | some k =>
    obtain ⟨-, hmem, -⟩ := List.find?_range_eq_some.1 hfind
    exact (List.mem_range.1 hmem).le

/-- The places that are left without trailing zeros are those that the number needs. -/
theorem fractionDigits_le_iff : a.fractionDigits ≤ k ↔ a.HasPlaces k := by
  refine ⟨fun h => a.hasPlaces_fractionDigits.mono h, fun h => ?_⟩
  rcases Nat.lt_or_ge k a.scale with hk | hk
  · have hzero : (a.coefficient % 10 ^ (a.scale - k) == 0) = true :=
      beq_iff_eq.2 (Int.emod_eq_zero_of_dvd ((hasPlaces_iff_dvd hk.le).1 h))
    unfold fractionDigits
    cases hfind : (List.range a.scale).find? fun k => a.coefficient % 10 ^ (a.scale - k) == 0 with
    | none => simp [List.find?_eq_none.1 hfind k (List.mem_range.2 hk)] at hzero
    | some j =>
      obtain ⟨-, -, hleast⟩ := List.find?_range_eq_some.1 hfind
      by_contra hless
      have := hleast k (by simpa using hless)
      simp [hzero] at this
  · exact a.fractionDigits_le_scale.trans hk

/-! ## Exact results -/

/-- The number **is a decimal**: a decimal stands for it. -/
def IsDecimal (x : ℚ) : Prop :=
  ∃ a : Decimal, a.value = x

/-- A number is a decimal if its digits in some places are in range. -/
theorem isDecimal_of_digits {x : ℚ} {N : ℤ} {p : Nat} (hN : x * 10 ^ p = N)
    (hlt : N.natAbs < 2 ^ 96) (hp : p ≤ 28) : IsDecimal x := by
  refine ⟨{ coefficient := N, scale := p, natAbs_lt := hlt, scale_le := hp }, ?_⟩
  rw [value, ← hN]
  field_simp

/-- The digits of a decimal in the places in which it is written. -/
theorem value_mul_pow (a : Decimal) : a.value * 10 ^ a.scale = a.coefficient := by
  unfold value
  field_simp

/-- A result for which a decimal stands has digits that fit, with zeros behind them. -/
theorem IsDecimal.exists_digits {n : ℤ} {s : Nat} (h : IsDecimal (n / 10 ^ s)) :
    ∃ (m : ℤ) (j : Nat), n = m * 10 ^ j ∧ m.natAbs < 2 ^ 96 ∧ j ≤ s ∧ s - j ≤ 28 := by
  obtain ⟨a, ha⟩ := h
  have hscale := a.scale_le
  have hn : (n : ℚ) * 10 ^ a.scale = a.coefficient * 10 ^ s := by
    rw [← value_mul_pow, ha]
    field_simp
  have hn : n * 10 ^ a.scale = a.coefficient * 10 ^ s := by exact_mod_cast hn
  rcases Nat.le_total s a.scale with hfewer | hmore
  · have hcoefficient : a.coefficient = n * 10 ^ (a.scale - s) := by
      refine mul_right_cancel₀ (b := (10 : ℤ) ^ s) (by positivity) ?_
      rw [← hn, mul_assoc, ← pow_add, Nat.sub_add_cancel hfewer]
    refine ⟨n, 0, by simp, lt_of_le_of_lt ?_ a.natAbs_lt, Nat.zero_le s, by omega⟩
    rw [hcoefficient, natAbs_mul_pow]
    exact Nat.le_mul_of_pos_right _ (by positivity)
  · refine ⟨a.coefficient, s - a.scale, ?_, a.natAbs_lt, Nat.sub_le _ _, by omega⟩
    refine mul_right_cancel₀ (b := (10 : ℤ) ^ a.scale) (by positivity) ?_
    rw [hn, mul_assoc, ← pow_add, Nat.sub_add_cancel hmore]

/-- A result that can be written in range is not rounded: only zeros are dropped. -/
theorem value_of_ofScaled? {n : ℤ} {s : Nat} (h : IsDecimal (n / 10 ^ s)) :
    ∃ c, ofScaled? n s = some c ∧ c.value = n / 10 ^ s := by
  obtain ⟨m, j, rfl, hm, hjs, hj⟩ := h.exists_digits
  have hfits : (dropPlaces (m * 10 ^ j) j).natAbs < 2 ^ 96 := by
    rwa [dropPlaces_mul]
  obtain ⟨c, hc⟩ := exists_ofScaled? hjs hj hfits
  obtain ⟨k, hk⟩ := ofScaled?_eq_some_iff.1 hc
  have hkj : k ≤ j := hk.le_of_fits hj hfits
  have hzeros : (10 : ℚ) ^ j = 10 ^ (j - k) * 10 ^ k := by
    rw [← pow_add, Nat.sub_add_cancel hkj]
  have hscale : (10 : ℚ) ^ s = 10 ^ (s - k) * 10 ^ k := by
    rw [← pow_add, Nat.sub_add_cancel hk.le]
  refine ⟨c, hc, ?_⟩
  rw [value, hk.coefficient, hk.scale, dropPlaces_mul_of_le m hkj]
  push_cast
  rw [hzeros, hscale]
  field_simp

/-! ## Products -/

/-- The sign of a zero is no matter of its number. -/
@[simp]
theorem value_withSign (negative : Bool) (a : Decimal) : (withSign negative a).value = a.value := by
  unfold withSign
  split <;> rfl

/-- The digits of a product stand for the product of the numbers. -/
theorem value_mul_value (a b : Decimal) :
    ((a.coefficient * b.coefficient : ℤ) : ℚ) / 10 ^ (a.scale + b.scale) = a.value * b.value := by
  unfold value
  rw [pow_add, div_mul_div_comm]
  push_cast
  rfl

/-- A product of amounts that are not negative has no minus sign. -/
theorem isNegative_of_product? (ha : 0 ≤ a.coefficient) (hb : 0 ≤ b.coefficient)
    (h : a.product? b = some c) : c.isNegative = false := by
  have hprod : 0 ≤ a.coefficient * b.coefficient := Int.mul_nonneg ha hb
  unfold product? at h
  split at h
  · cases h
    rfl
  · obtain ⟨c', hc', rfl⟩ := Option.map_eq_some_iff.1 h
    obtain ⟨k, hk⟩ := ofScaled?_eq_some_iff.1 hc'
    have hc := nonneg_of_ofScaled? hprod hc'
    simp [withSign, isNegative, Int.not_lt.2 hprod, Int.not_lt.2 hc, hk.minusZero]

/-- A product that vanishes is no decimal unless it is zero: it has no digit in any place that a
decimal has. -/
theorem product_eq_zero_of_vanishes (hv : Vanishes a b) (h : IsDecimal (a.value * b.value)) :
    a.value * b.value = 0 := by
  obtain ⟨d, hd⟩ := h
  obtain ⟨⟨ha, hb⟩, hscale⟩ := hv
  have hdigits : a.coefficient * b.coefficient * 10 ^ d.scale =
      d.coefficient * 10 ^ (a.scale + b.scale) := by
    have : ((a.coefficient * b.coefficient : ℤ) : ℚ) * 10 ^ d.scale =
        d.coefficient * 10 ^ (a.scale + b.scale) := by
      rw [← value_mul_pow, hd, ← value_mul_value]
      field_simp
    exact_mod_cast this
  have habs := congrArg Int.natAbs hdigits
  rw [natAbs_mul_pow, natAbs_mul_pow, Int.natAbs_mul] at habs
  rw [← hd]
  refine value_of_coefficient ?_
  by_contra hne
  have hpos : 1 ≤ d.coefficient.natAbs := Int.natAbs_pos.2 hne
  have hsmall : a.coefficient.natAbs * b.coefficient.natAbs < 2 ^ 32 * 2 ^ 32 :=
    Nat.mul_lt_mul'' ha hb
  have hlow : a.coefficient.natAbs * b.coefficient.natAbs * 10 ^ d.scale < 10 ^ 48 :=
    calc a.coefficient.natAbs * b.coefficient.natAbs * 10 ^ d.scale
        < 2 ^ 32 * 2 ^ 32 * 10 ^ d.scale := Nat.mul_lt_mul_of_pos_right hsmall (by positivity)
      _ ≤ 2 ^ 32 * 2 ^ 32 * 10 ^ 28 :=
        Nat.mul_le_mul_left _ (Nat.pow_le_pow_right (by decide) d.scale_le)
      _ < 10 ^ 48 := by norm_num
  have hhigh : 10 ^ 48 ≤ d.coefficient.natAbs * 10 ^ (a.scale + b.scale) :=
    calc 10 ^ 48 ≤ 10 ^ (a.scale + b.scale) := Nat.pow_le_pow_right (by decide) (by omega)
      _ ≤ d.coefficient.natAbs * 10 ^ (a.scale + b.scale) := Nat.le_mul_of_pos_left _ hpos
  omega

/-- A product that is a decimal is exact, in however many places its operands are written. -/
theorem exists_product?_of_isDecimal (h : IsDecimal (a.value * b.value)) :
    ∃ c, a.product? b = some c ∧ c.value = a.value * b.value := by
  unfold product?
  split
  · next hzero =>
    refine ⟨zero, rfl, ?_⟩
    rw [value_zero]
    rcases hzero with hzero | hzero | hv
    · rw [value_of_coefficient hzero, zero_mul]
    · rw [value_of_coefficient hzero, mul_zero]
    · rw [product_eq_zero_of_vanishes hv h]
  · rw [← value_mul_value] at h
    obtain ⟨c, hc, hvalue⟩ := value_of_ofScaled? h
    dsimp only
    rw [hc]
    refine ⟨_, rfl, ?_⟩
    rw [value_withSign, hvalue, value_mul_value]

/-- A product whose digits fit is exact. -/
theorem value_of_product? (ha : a.HasPlaces j) (hb : b.HasPlaces k) (hjk : j + k ≤ 28)
    (hlt : |a.value * b.value| * 10 ^ (j + k) < 2 ^ 96) :
    ∃ c, a.product? b = some c ∧ c.value = a.value * b.value := by
  obtain ⟨m, hm⟩ := ha
  obtain ⟨n, hn⟩ := hb
  have hN : a.value * b.value * 10 ^ (j + k) = ((m * n : ℤ) : ℚ) := by
    push_cast
    rw [← hm, ← hn, pow_add]
    ring
  have hfits : (m * n).natAbs < 2 ^ 96 := by
    have habs : |a.value * b.value| * 10 ^ (j + k) = (((m * n).natAbs : ℤ) : ℚ) := by
      have hpow : (0 : ℚ) < 10 ^ (j + k) := by positivity
      rw [Int.natCast_natAbs, Int.cast_abs, ← hN, abs_mul (a.value * b.value), abs_of_pos hpow]
    rw [habs] at hlt
    exact_mod_cast hlt
  exact exists_product?_of_isDecimal (isDecimal_of_digits hN hfits hjk)

end OrderDesk.Decimal
