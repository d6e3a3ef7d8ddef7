import OrderDesk.Proofs.Overflow
import OrderDesk.Proofs.Places

/-!
# Exact and rounded amounts

Sums and products that do not fit are rounded without a word. A sum is exact whenever a decimal
stands for it at all, however its terms are written; otherwise it is off by half a unit of the last
place that is kept at most. A balance is debited and credited by such sums, so the amount that an
order moves is exact unless the new balance needs more digits than a decimal has. Of a product it
matters whether it is rounded up to one, the least value of an order.

## Main definitions

* `OrderDesk.Decimal.IsRoundingOf` — a decimal that is the number, or close to it if none is.
* `OrderDesk.Balance.update` — a balance is debited or credited.

## Main results

* `OrderDesk.Decimal.isRoundingOf_of_sum?` — sums in range.
* `OrderDesk.Decimal.one_le_value_iff_of_product?` — which products are rounded to one or more.
* `OrderDesk.Desk.money_moved` — when a debit or a credit moves exactly its amount.
-/

set_option autoImplicit false

namespace OrderDesk

namespace Decimal

/-! ## Results of one rounding -/

/-- The decimal **is a rounding** of a number: it stands for the number exactly if any decimal does,
and it is no further off than half a unit of its last place. -/
structure IsRoundingOf (c : Decimal) (x : ℚ) : Prop where
  exact_iff : c.value = x ↔ IsDecimal x
  near : |c.value - x| ≤ 1 / (2 * 10 ^ c.scale)

/-- A decimal is a rounding of the number that it stands for. -/
theorem IsRoundingOf.of_eq {c : Decimal} {x : ℚ} (h : c.value = x) : c.IsRoundingOf x where
  exact_iff := iff_of_true h ⟨c, h⟩
  near := by
    rw [h, sub_self, abs_zero]
    positivity

/-- A rounded quotient is half a unit off at most. -/
theorem roundHalfEven_near {n d : Nat} (hd : 0 < d) :
    2 * n ≤ 2 * (roundHalfEven n d * d) + d ∧ 2 * (roundHalfEven n d * d) ≤ 2 * n + d := by
  have hn := Nat.div_add_mod' n d
  have hlt := Nat.mod_lt n hd
  unfold roundHalfEven
  dsimp only
  split
  · rw [Nat.succ_mul (n / d) d]
    omega
  · omega

/-- Twice what is dropped with the last places is one unit of the last place that is kept at
most. -/
theorem dropPlaces_near (n : Int) (k : Nat) :
    2 * n ≤ 2 * (dropPlaces n k * 10 ^ k) + 10 ^ k ∧
      2 * (dropPlaces n k * 10 ^ k) ≤ 2 * n + 10 ^ k := by
  have hpow : 0 < 10 ^ k := by positivity
  have hnear := roundHalfEven_near (n := n.natAbs) hpow
  zify at hnear
  unfold dropPlaces
  split
  · next hneg =>
    rw [abs_of_neg hneg] at hnear
    rw [Int.neg_mul]
    omega
  · next hpos =>
    rw [abs_of_nonneg (Int.not_lt.1 hpos)] at hnear
    exact hnear

/-- The error of dropping places is half a unit of the last place that is kept at most. -/
theorem abs_dropPlaces_sub_le (n : Int) (k : Nat) :
    |(dropPlaces n k * 10 ^ k - n : ℚ)| ≤ 10 ^ k / 2 := by
  obtain ⟨hlow, hhigh⟩ := dropPlaces_near n k
  have hlow : (2 * n : ℚ) ≤ 2 * (dropPlaces n k * 10 ^ k) + 10 ^ k := by exact_mod_cast hlow
  have hhigh : (2 * (dropPlaces n k * 10 ^ k) : ℚ) ≤ 2 * n + 10 ^ k := by exact_mod_cast hhigh
  rw [abs_le]
  constructor <;> linarith

/-- What an exact result is rounded to stands for it if any decimal does: then only zeros are
dropped. -/
theorem isRoundingOf_of_ofScaled? {n : Int} {s : Nat} {c : Decimal} (h : ofScaled? n s = some c) :
    c.IsRoundingOf (n / 10 ^ s) where
  exact_iff := by
    refine ⟨fun hc => ⟨c, hc⟩, fun hx => ?_⟩
    obtain ⟨c', hc', hvalue⟩ := value_of_ofScaled? hx
    rw [h] at hc'
    cases hc'
    exact hvalue
  near := by
    obtain ⟨k, hk⟩ := ofScaled?_eq_some_iff.1 h
    have hscale : (10 : ℚ) ^ s = 10 ^ (s - k) * 10 ^ k := by
      rw [← pow_add, Nat.sub_add_cancel hk.le]
    have hpow : (0 : ℚ) < 10 ^ s := by positivity
    have herror : c.value - n / 10 ^ s = (dropPlaces n k * 10 ^ k - n : ℚ) / 10 ^ s := by
      rw [value, hk.coefficient, hk.scale, hscale]
      field_simp
    calc |c.value - n / 10 ^ s|
        = |(dropPlaces n k * 10 ^ k - n : ℚ)| / 10 ^ s := by
          rw [herror, abs_div, abs_of_pos hpow]
      _ ≤ 10 ^ k / 2 / 10 ^ s := div_le_div_of_nonneg_right (abs_dropPlaces_sub_le n k) hpow.le
      _ = 1 / (2 * 10 ^ c.scale) := by
          rw [hk.scale, hscale]
          field_simp

/-- A sum in range. -/
theorem isRoundingOf_of_sum? {a b c : Decimal} (h : a.sum? b = some c) :
    c.IsRoundingOf (a.value + b.value) := by
  unfold sum? at h
  split at h
  · next hzero =>
    cases h
    exact .of_eq (by rw [value_of_coefficient hzero, zero_add])
  split at h
  · next hzero =>
    cases h
    exact .of_eq (by rw [value_of_coefficient hzero, add_zero])
  · rw [value_add_value]
    exact isRoundingOf_of_ofScaled? h

/-! ## Rounding up to one -/

/-- A product that vanishes is less than a half. -/
theorem abs_product_of_vanishes {a b : Decimal} (h : Vanishes a b) :
    |a.value * b.value| ≤ 1 / 2 := by
  obtain ⟨⟨ha, hb⟩, hscale⟩ := h
  have hsize : |((a.coefficient * b.coefficient : ℤ) : ℚ)| ≤ 2 ^ 64 := by
    have hlt : (a.coefficient * b.coefficient).natAbs < 2 ^ 32 * 2 ^ 32 :=
      Int.natAbs_mul _ _ ▸ Nat.mul_lt_mul'' ha hb
    rw [← Int.cast_abs, Int.abs_eq_natAbs]
    exact_mod_cast hlt.le
  have hpow : (0 : ℚ) < 10 ^ (a.scale + b.scale) := by positivity
  have hplaces : (10 : ℚ) ^ 48 ≤ 10 ^ (a.scale + b.scale) :=
    pow_le_pow_right₀ (by norm_num) (by omega)
  rw [← value_mul_value, abs_div, abs_of_pos hpow, div_le_div_iff₀ hpow (by norm_num)]
  calc |((a.coefficient * b.coefficient : ℤ) : ℚ)| * 2
      ≤ 2 ^ 64 * 2 := mul_le_mul_of_nonneg_right hsize (by norm_num)
    _ ≤ 1 * 10 ^ 48 := by norm_num
    _ ≤ 1 * 10 ^ (a.scale + b.scale) := mul_le_mul_of_nonneg_left hplaces (by norm_num)

/-- A product that is zero without being rounded is less than a half. -/
theorem abs_product_le_half {a b : Decimal}
    (h : a.coefficient = 0 ∨ b.coefficient = 0 ∨ Vanishes a b) : |a.value * b.value| ≤ 1 / 2 := by
  rcases h with hzero | hzero | hv
  · simp [value_of_coefficient hzero]
  · simp [value_of_coefficient hzero]
  · exact abs_product_of_vanishes hv

/-- Rounding does not take a quotient below a whole number. -/
theorem le_roundHalfEven {n d m : Nat} (hd : 0 < d) (h : m * d ≤ n) : m ≤ roundHalfEven n d := by
  have hle : m ≤ n / d := (Nat.le_div_iff_mul_le hd).2 h
  unfold roundHalfEven
  dsimp only
  split <;> omega

/-- The digits of a number below one are rounded in the last of the 28 places, if there are any
behind it. -/
theorem dropped_of_lt_one {n : Int} {s k : Nat} {c : Decimal} (hn : 0 ≤ n) (hlt : n < 10 ^ s)
    (h : IsRounded n s k c) : k = s - 28 := by
  have hscale := c.scale_le
  rw [h.scale] at hscale
  have hle : n ≤ ((10 ^ (s - (s - 28)) : Nat) : Int) * 10 ^ (s - 28) := by
    push_cast
    rw [← pow_add, Nat.sub_add_cancel (Nat.sub_le s 28)]
    exact hlt.le
  have hdropped := dropPlaces_le hn hle
  have hpos := dropPlaces_nonneg hn (s - 28)
  have hpow : 10 ^ (s - (s - 28)) ≤ 10 ^ 28 := Nat.pow_le_pow_right (by decide) (by omega)
  exact Nat.le_antisymm (h.le_of_fits (by omega) (by omega)) (by omega)

/-- A number in fewer than 28 places that is less than one is less by a whole unit of its last
place. -/
theorem lt_of_lt_one {n : Int} {s : Nat} (hlt : n < 10 ^ s) (hs : s < 28) :
    (n : ℚ) / 10 ^ s < 1 - 1 / (2 * 10 ^ 28) := by
  have hplaces : (10 : ℚ) ^ s ≤ 10 ^ 28 := pow_le_pow_right₀ (by norm_num) hs.le
  have hunit : (n : ℚ) ≤ 10 ^ s - 1 := by
    have : n ≤ 10 ^ s - 1 := by omega
    exact_mod_cast this
  rw [div_lt_iff₀ (by positivity)]
  linarith

/-- A number in 28 places and more is rounded to one or more in the last of the 28 places exactly if
it comes within half a unit of it: what is half way is rounded up, since the digits of one are
even. -/
theorem one_le_roundHalfEven_iff (n k : Nat) :
    10 ^ 28 ≤ roundHalfEven n (10 ^ k) ↔ 1 - 1 / (2 * 10 ^ 28) ≤ (n : ℚ) / 10 ^ (28 + k) := by
  have hdigits : 10 ^ 28 = 2 * (5 * 10 ^ 27) := by norm_num
  have hhalf : (4 * (5 * 10 ^ 27) * 10 ^ k : ℚ) ≤ 2 * n + 10 ^ k ↔
      4 * (5 * 10 ^ 27) * 10 ^ k ≤ 2 * n + 10 ^ k := by
    norm_cast
  rw [hdigits, le_roundHalfEven_iff (by positivity), ← hhalf, le_div_iff₀ (by positivity), pow_add]
  constructor <;> intro h <;> linarith

/-- A number that is not negative is rounded to one or more exactly if it comes within half a unit
of the last of the 28 places.

**Proof sketch.** One is never rounded down. What is less has no digits in front of its places, so
it is rounded in the last of the 28 places, if it has as many. If it has fewer, it is not rounded,
and one is a whole unit away. -/
theorem one_le_value_iff_of_ofScaled? {n : Int} {s : Nat} {c : Decimal} (hn : 0 ≤ n)
    (h : ofScaled? n s = some c) : 1 ≤ c.value ↔ 1 - 1 / (2 * 10 ^ 28) ≤ (n : ℚ) / 10 ^ s := by
  obtain ⟨k, hk⟩ := ofScaled?_eq_some_iff.1 h
  obtain ⟨n, rfl⟩ := Int.eq_ofNat_of_zero_le hn
  have hround : dropPlaces n k = roundHalfEven n (10 ^ k) := by
    unfold dropPlaces
    rw [if_neg (Int.not_lt.2 hn), Int.natAbs_natCast]
  have hone : 1 ≤ c.value ↔ 10 ^ (s - k) ≤ roundHalfEven n (10 ^ k) := by
    rw [value, hk.coefficient, hk.scale, hround, le_div_iff₀ (by positivity), one_mul]
    exact_mod_cast Iff.rfl
  rw [hone]
  rcases lt_or_ge (n : Int) (10 ^ s) with hless | hmore
  · obtain rfl := dropped_of_lt_one hn hless hk
    rcases Nat.lt_or_ge s 28 with hs | hs
    · rw [Nat.sub_eq_zero_of_le hs.le, pow_zero, ← mul_one n, roundHalfEven_mul Nat.one_pos,
        mul_one]
      refine iff_of_false (fun hle => ?_) (lt_of_lt_one hless hs).not_ge
      exact absurd hless (by exact_mod_cast Nat.not_lt.2 hle)
    · rw [Nat.sub_sub_self hs, one_le_roundHalfEven_iff, Nat.add_sub_cancel' hs]
      exact Iff.rfl
  · -- one is reached and not rounded down
    have hreached : 10 ^ s ≤ n := by exact_mod_cast hmore
    refine iff_of_true (le_roundHalfEven (by positivity) ?_) ?_
    · rwa [← pow_add, Nat.sub_add_cancel hk.le]
    · have hreached : (10 : ℚ) ^ s ≤ n := by exact_mod_cast hreached
      rw [le_div_iff₀ (by positivity)]
      push_cast
      linarith

/-- A product of amounts that are not negative is rounded to one or more exactly if it comes within
half a unit of the last of the 28 places. -/
theorem one_le_value_iff_of_product? {a b c : Decimal} (ha : 0 ≤ a.coefficient)
    (hb : 0 ≤ b.coefficient) (h : a.product? b = some c) :
    1 ≤ c.value ↔ 1 - 1 / (2 * 10 ^ 28) ≤ a.value * b.value := by
  unfold product? at h
  split at h
  · next hzero =>
    cases h
    have hsmall := (le_abs_self _).trans (abs_product_le_half hzero)
    rw [value_zero]
    refine iff_of_false (by norm_num) fun hle => ?_
    linarith
  · obtain ⟨c', hc', rfl⟩ := Option.map_eq_some_iff.1 h
    rw [value_withSign, ← value_mul_value]
    exact one_le_value_iff_of_ofScaled? (Int.mul_nonneg ha hb) hc'

end Decimal

/-! ## Balances -/

/-- What a sum or difference in range makes of money. -/
theorem Side.isRoundingOf_of_change? {side : Side} {money amount left : Decimal}
    (h : side.change? money amount = some left) :
    left.IsRoundingOf (money.value + side.signed amount) := by
  cases side with
  | buy =>
    show left.IsRoundingOf (money.value + -amount.value)
    rw [← Decimal.value_neg]
    exact Decimal.isRoundingOf_of_sum? h
  | sell => exact Decimal.isRoundingOf_of_sum? h

namespace Balance

variable {b b' : Balance} {side : Side} {amount : Decimal} {now : Instant}

/-- An amount is debited or credited. -/
def update (b : Balance) (side : Side) (amount : Decimal) (now : Instant) :
    Except (Failure DomainError) Balance :=
  match side with
  | .buy => b.debit amount now
  | .sell => b.credit amount now

/-- The balance that is there afterwards: a refused change leaves it as it is. -/
def after (b : Balance) (side : Side) (amount : Decimal) (now : Instant) : Balance :=
  (b.update side amount now).toOption.getD b

/-- All that a balance can be updated to. -/
theorem eq_withCurrent_of_update (h : b.update side amount now = .ok b') :
    ∃ left, side.change? b.current amount = some left ∧ b' = b.withCurrent left now := by
  cases side with
  | buy =>
    change b.debit amount now = _ at h
    unfold debit at h
    split at h
    · cases h
    split at h
    · cases h
    split at h
    · next left hleft =>
      cases h
      exact ⟨left, hleft, rfl⟩
    · cases h
  | sell =>
    change b.credit amount now = _ at h
    unfold credit at h
    split at h
    · cases h
    split at h
    · next left hleft =>
      cases h
      exact ⟨left, hleft, rfl⟩
    · cases h

end Balance

/-- **When money is moved exactly.** A debit or a credit that succeeds makes of the balance what the
exact difference or sum is rounded to: exactly that number if it is a decimal, and half a unit of
the last place off at most if it has too many digits to be one. A refused one leaves the balance as
it is. So it is for every order that is committed, and a commit that fails changes nothing.

**Proof sketch.** Both operations and the commit of an order come down to one sum of decimals
(`Side.change?`), which is rounded once (`Decimal.isRoundingOf_of_sum?`). -/
theorem Desk.money_moved (d : Desk) (m : Moment) (side : Side) :
    (∀ (b : Balance) (amount : Decimal),
      match b.update side amount m.now with
      | .ok b' => b'.current.IsRoundingOf (b.current.value + side.signed amount)
      | .error _ => b.after side amount m.now = b) ∧
    ∀ order : Order,
      match d.commit m side order with
      | (.ok settlement, d') =>
        settlement.balance.current.IsRoundingOf
            ((d.balanceOf order.username m.now).current.value + side.signed order.totalAmount) ∧
          d' = (d.putOrder order).putBalance settlement.balance
      | (.error _, d') => d' = d := by
  constructor
  · intro b amount
    cases hupdate : b.update side amount m.now with
    | ok b' =>
      obtain ⟨left, hleft, rfl⟩ := Balance.eq_withCurrent_of_update hupdate
      exact Side.isRoundingOf_of_change? hleft
    | error e =>
      show b.after side amount m.now = b
      unfold Balance.after
      rw [hupdate]
      rfl
  · intro order
    rcases d.commit_cases m side order with ⟨e, he⟩ | ⟨balance, -, hcharge, -, he⟩
    · rw [he]
    · rw [he]
      obtain ⟨left, hleft, -, rfl⟩ := eq_withCurrent_of_charge hcharge
      exact ⟨Side.isRoundingOf_of_change? hleft, rfl⟩

/-- The largest balance that there is. -/
def Balance.full : Balance :=
  { username := ⟨"alice"⟩, current := 79228162514264337593543950335,
    updatedAt := .ofSeconds 1700000000 }

/-- Not every debit or credit that succeeds moves its amount: the largest balance stays the same
when less than a half is taken from it or added to it. -/
theorem Balance.full_moves_nothing :
    0 ≤ Balance.full.current.value ∧ (0.4 : Decimal).value = 2 / 5 ∧
      ∀ side, ∃ b', Balance.full.update side 0.4 (.ofSeconds 1700000001) = .ok b' ∧
        b'.current.value = Balance.full.current.value ∧
        b'.current.value ≠ Balance.full.current.value + side.signed 0.4 := by
  have hamount : (0.4 : Decimal).value = 2 / 5 := by
    show ((4 : ℤ) : ℚ) / 10 ^ 1 = 2 / 5
    norm_num
  refine ⟨Decimal.value_nonneg.2 (by decide), hamount, fun side => ?_⟩
  refine ⟨Balance.full.withCurrent Balance.full.current (.ofSeconds 1700000001), ?_, rfl, ?_⟩
  · cases side <;> rfl
  · show Balance.full.current.value ≠ _
    cases side <;> simp [Side.signed, hamount]

end OrderDesk
