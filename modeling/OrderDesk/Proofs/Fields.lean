import OrderDesk.Proofs.Names
import OrderDesk.Proofs.Places
import OrderDesk.Proofs.Version

/-!
# Fields and rules

The fields of a form are checked first, and the rules on orders are asked later. Here each check is
tied to the numbers and times that it accepts, and the two layers are put together: what the fields
have been checked for the rules ask once more, except that they are stricter on the expiration time.

## Main definitions

* `OrderDesk.Decimal.IsQuantity`, `OrderDesk.Decimal.IsPrice` — quantities and limit prices that are
  accepted.
* `OrderDesk.Instant.ExpiresWithin` — an expiration time that is accepted.
* `OrderDesk.OrderForm.IsCorrect`, `OrderDesk.OrderForm.request` — forms that are accepted, and the
  request that such a form stands for.

## Main results

* `OrderDesk.OrderForm.check_eq_ok_iff` — when the fields of a form are accepted.
* `OrderDesk.Rules.violations_eq_nil_iff` — when no rule is broken.
* `OrderDesk.Order.exists_place` — when an order is made.
-/

set_option autoImplicit false

namespace OrderDesk

/-- Two steps give a value exactly if the first one does and the second one does with it. -/
theorem bind_eq_ok_iff {ε α β : Type} {x : Except ε α} {f : α → Except ε β} {b : β} :
    x >>= f = .ok b ↔ ∃ a, x = .ok a ∧ f a = .ok b := by
  cases x <;> simp [bind, Except.bind]

/-! ## Numbers and times -/

/-- A **quantity** of an order: from a thousandth to a thousand, with at most eight places. -/
structure Decimal.IsQuantity (q : Decimal) : Prop where
  range : 1 / 1000 ≤ q.value ∧ q.value ≤ 1000
  places : q.HasPlaces 8

/-- A **limit price**: positive, up to a million, with at most two places. -/
structure Decimal.IsPrice (p : Decimal) : Prop where
  range : 0 < p.value ∧ p.value ≤ 1000000
  places : p.HasPlaces 2

/-- A time at which an order may **expire** that is placed at `now`: later, by at most so many
days. -/
def Instant.ExpiresWithin (t : Instant) (days : Nat) (now : Instant) : Prop :=
  now < t ∧ t ≤ now.plusDays days

/-- A quantity is not negative. -/
theorem Decimal.IsQuantity.nonneg {q : Decimal} (h : q.IsQuantity) : 0 ≤ q.coefficient :=
  value_nonneg.1 (le_trans (by norm_num) h.range.1)

/-- An instant that comes before another one is not after it. -/
theorem Instant.not_lt {a b : Instant} : ¬a < b ↔ b ≤ a := by
  simp only [lt_def, le_def]
  omega

/-- More days later is later. -/
theorem Instant.plusDays_mono (t : Instant) {m n : Nat} (h : m ≤ n) :
    t.plusDays m ≤ t.plusDays n := by
  simp only [le_def, plusDays, plusSeconds]
  split <;> split <;> dsimp only <;> omega

/-- A time at which an order may expire is neither past nor too late. -/
theorem Instant.expiresWithin_iff {now t : Instant} {days : Nat} :
    t.ExpiresWithin days now ↔ ¬t ≤ now ∧ ¬now.plusDays days < t := by
  rw [ExpiresWithin, not_le, not_lt]

/-- A time within fewer days is within more days. -/
theorem Instant.ExpiresWithin.mono {now t : Instant} {m n : Nat} (h : t.ExpiresWithin m now)
    (hmn : m ≤ n) : t.ExpiresWithin n now := by
  refine ⟨h.1, ?_⟩
  have hle := h.2
  have hmono := now.plusDays_mono hmn
  simp only [le_def] at hle hmono ⊢
  omega

namespace Rules

/-- The least quantity is a thousandth. -/
@[simp]
theorem value_minQuantity : minQuantity.value = 1 / 1000 := by
  rw [Decimal.value, show minQuantity.coefficient = 1 from rfl, show minQuantity.scale = 3 from rfl]
  norm_num

/-- The greatest quantity is a thousand. -/
@[simp]
theorem value_maxQuantity : maxQuantity.value = 1000 := by
  rw [Decimal.value, show maxQuantity.coefficient = 1000 from rfl,
    show maxQuantity.scale = 0 from rfl]
  norm_num

/-- The least value of an order is one. -/
@[simp]
theorem value_minOrderValue : minOrderValue.value = 1 := by
  rw [Decimal.value, show minOrderValue.coefficient = 100 from rfl,
    show minOrderValue.scale = 2 from rfl]
  norm_num

/-! ## Rules -/

variable {q p value : Decimal} {orderType : OrderType} {now : Instant}

/-- The rule on the range of a quantity. -/
theorem quantityRange_eq_ok_iff :
    quantityRange q = .ok () ↔ 1 / 1000 ≤ q.value ∧ q.value ≤ 1000 := by
  unfold quantityRange
  rw [← value_minQuantity, ← value_maxQuantity, Decimal.value_le_value, Decimal.value_le_value,
    ← Decimal.not_lt, ← Decimal.not_lt]
  split
  · next h => simp [h]
  · next h => split <;> simp_all

/-- The rule on the places of a quantity. -/
theorem quantityPrecision_eq_ok_iff : quantityPrecision q = .ok () ↔ q.HasPlaces 8 := by
  unfold quantityPrecision maxQuantityPlaces
  rw [← Decimal.fractionDigits_le_iff, ← Nat.not_lt]
  split <;> simp_all

/-- The rule on the places of a price. -/
theorem pricePrecision_eq_ok_iff : pricePrecision p = .ok () ↔ p.HasPlaces 2 := by
  unfold pricePrecision maxPricePlaces
  rw [← Decimal.fractionDigits_le_iff, ← Nat.not_lt]
  split <;> simp_all

/-- The value of an order is a product in range. -/
theorem notional_eq_ok_iff : notional q p = .ok value ↔ q.product? p = some value := by
  unfold notional
  cases q.product? p <;> simp

/-- The rule on the value of an order that buys. -/
theorem orderValue_eq_ok_iff (h : notional q p = .ok value) :
    orderValue orderType q (some p) = .ok () ↔ (orderType.isBuy = true → 1 ≤ value.value) := by
  unfold orderValue
  rw [← value_minOrderValue, Decimal.value_le_value, ← Decimal.not_lt, Option.getD_some, h]
  cases orderType.isBuy with
  | false => simp
  | true =>
    by_cases hless : value < minOrderValue
    · simp [hless]
    · simp [hless]

/-- The rule on the expiration time. -/
theorem expiration_eq_ok_iff {expiresAt : Option Instant} :
    expiration expiresAt now = .ok () ↔ ∀ t, expiresAt = some t → t.ExpiresWithin 30 now := by
  cases expiresAt with
  | none => simp [expiration]
  | some t =>
    simp only [expiration, Option.some.injEq, forall_eq', Instant.expiresWithin_iff]
    split
    · next hpast => simp [hpast]
    · next hpast => split <;> simp_all [maxExpirationDays]

/-- No rule is broken exactly if quantity, price and expiration time are as they should be. -/
theorem violations_eq_nil_iff {price : Option Decimal} {expiresAt : Option Instant} :
    violations orderType q price expiresAt now = [] ↔
      q.IsQuantity ∧ (∀ p, price = some p → p.HasPlaces 2) ∧ price.isSome = orderType.isLimit ∧
        ∀ t, expiresAt = some t → t.ExpiresWithin 30 now := by
  have hquantity : q.IsQuantity ↔ (1 / 1000 ≤ q.value ∧ q.value ≤ 1000) ∧ q.HasPlaces 8 :=
    ⟨fun h => ⟨h.range, h.places⟩, fun h => ⟨h.1, h.2⟩⟩
  unfold violations
  rw [List.append_eq_nil_iff, List.append_eq_nil_iff, List.append_eq_nil_iff,
    List.append_eq_nil_iff, broken_eq_nil_iff, broken_eq_nil_iff, broken_eq_nil_iff,
    broken_eq_nil_iff, quantityRange_eq_ok_iff, quantityPrecision_eq_ok_iff,
    priceRequirement_eq_ok_iff, expiration_eq_ok_iff, hquantity]
  cases price with
  | none => simp only [and_assoc, true_and, reduceCtorEq, false_imp_iff, implies_true]
  | some p =>
    simp only [broken_eq_nil_iff, pricePrecision_eq_ok_iff, and_assoc, Option.some.injEq,
      forall_eq']

end Rules

/-! ## Making an order -/

namespace Order

variable {request : OrderRequest} {price value : Decimal} {now idTime : Instant} {token : Uuid}

/-- An order is made if no rule is broken and its value is in range. -/
theorem exists_place
    (hrules : Rules.violations request.orderType request.quantity request.orderPrice
      request.expiresAt now = [])
    (hvalue : Rules.notional request.quantity price = .ok value) :
    ∃ order, place request price now idTime token = .ok order := by
  unfold place
  dsimp only
  rw [dif_pos hrules]
  split
  · next h => cases h.symm.trans hvalue
  · exact ⟨_, rfl⟩

/-- An order that is made breaks no rule. -/
theorem violations_of_place {order : Order}
    (h : place request price now idTime token = .ok order) :
    Rules.violations request.orderType request.quantity request.orderPrice request.expiresAt now =
      [] := by
  unfold place at h
  dsimp only at h
  split at h
  · next hrules => exact hrules
  · cases h

end Order

/-! ## Fields -/

namespace Field

variable {orderType : OrderType} {now : Instant}

/-- The greatest price is a million. -/
@[simp]
theorem value_maxPrice : maxPrice.value = 1000000 := by
  rw [Decimal.value, show maxPrice.coefficient = 1000000 from rfl,
    show maxPrice.scale = 0 from rfl]
  norm_num

/-- A rule that is asked of a field is kept exactly if it is kept. -/
theorem ofRule_eq_ok_iff {α : Type} {result : Except RuleViolation α} {a : α} :
    ofRule result = .ok a ↔ result = .ok a := by
  cases result <;> simp [ofRule]

/-- What is not positive is at most zero. -/
theorem le_zero_iff {a : Decimal} : a ≤ Decimal.zero ↔ a.value ≤ 0 := by
  rw [← Decimal.value_le_value, Decimal.value_zero]

/-- The field of the quantity. -/
theorem quantity_eq_ok_iff {q checked : Decimal} :
    quantity q = .ok checked ↔ q.IsQuantity ∧ checked = q := by
  unfold quantity
  constructor
  · intro h
    dsimp only at h
    split at h
    · cases h
    obtain ⟨_, hplaces, h⟩ := bind_eq_ok_iff.1 h
    obtain ⟨_, hrange, h⟩ := bind_eq_ok_iff.1 h
    exact ⟨⟨Rules.quantityRange_eq_ok_iff.1 (ofRule_eq_ok_iff.1 hrange),
      Rules.quantityPrecision_eq_ok_iff.1 (ofRule_eq_ok_iff.1 hplaces)⟩, (Except.ok.inj h).symm⟩
  · rintro ⟨h, rfl⟩
    have hpositive : ¬checked ≤ Decimal.zero := by
      rw [le_zero_iff, not_le]
      exact lt_of_lt_of_le (by norm_num) h.range.1
    rw [if_neg hpositive, Rules.quantityPrecision_eq_ok_iff.2 h.places,
      Rules.quantityRange_eq_ok_iff.2 h.range]
    rfl

/-- The field of a price. -/
theorem price_eq_ok_iff {p checked : Decimal} :
    price p = .ok checked ↔ p.IsPrice ∧ checked = p := by
  unfold price
  constructor
  · intro h
    dsimp only at h
    split at h
    · cases h
    · next hpositive =>
      obtain ⟨_, hplaces, h⟩ := bind_eq_ok_iff.1 h
      split at h
      · cases h
      · next hrange =>
        rw [le_zero_iff, not_le] at hpositive
        rw [← Decimal.value_lt_value, value_maxPrice, not_lt] at hrange
        exact ⟨⟨⟨hpositive, hrange⟩, Rules.pricePrecision_eq_ok_iff.1 (ofRule_eq_ok_iff.1 hplaces)⟩,
          (Except.ok.inj h).symm⟩
  · rintro ⟨h, rfl⟩
    have hpositive : ¬checked ≤ Decimal.zero := by
      rw [le_zero_iff, not_le]
      exact h.range.1
    have hrange : ¬maxPrice < checked := by
      rw [← Decimal.value_lt_value, value_maxPrice, not_lt]
      exact h.range.2
    rw [if_neg hpositive, Rules.pricePrecision_eq_ok_iff.2 h.places, if_neg hrange]
    rfl

/-- The field of the limit price: a limit order has one and a market order has none. -/
theorem limitPrice_eq_ok_iff {p checked : Option Decimal} :
    limitPrice orderType p = .ok checked ↔
      p.isSome = orderType.isLimit ∧ (∀ price, p = some price → price.IsPrice) ∧ checked = p := by
  unfold limitPrice
  cases orderType.isLimit with
  | false => cases p <;> simp [eq_comm]
  | true =>
    cases p with
    | none => simp
    | some p =>
      have hmap : ∀ r : Except FieldError Decimal, some <$> r = .ok checked ↔
          ∃ a, r = .ok a ∧ some a = checked := by
        intro r
        cases r <;> simp [Functor.map, Except.map]
      simp only [hmap, price_eq_ok_iff, Option.isSome_some, Option.some.injEq, forall_eq', true_and]
      constructor
      · rintro ⟨a, ⟨hprice, rfl⟩, rfl⟩
        exact ⟨hprice, rfl⟩
      · rintro ⟨hprice, rfl⟩
        exact ⟨p, ⟨hprice, rfl⟩, rfl⟩

/-- The field of the expiration time: a limit order has one. -/
theorem expiresAt_eq_ok_iff {t checked : Option Instant} :
    expiresAt orderType t now = .ok checked ↔
      (orderType.isLimit = true → t.isSome = true) ∧
        (∀ time, t = some time → time.ExpiresWithin 365 now) ∧ checked = t := by
  cases t with
  | none => cases hlimit : orderType.isLimit <;> simp [expiresAt, hlimit, eq_comm]
  | some t =>
    unfold expiresAt maxExpirationDays
    simp only [Option.some.injEq, forall_eq', Instant.expiresWithin_iff]
    split
    · next hpast => simp only [hpast, not_true_eq_false, false_and, and_false, reduceCtorEq]
    · next hpast =>
      split
      · next hlate =>
        simp only [hlate, not_true_eq_false, false_and, and_false, reduceCtorEq]
      · next hlate =>
        simp only [hpast, hlate, not_false_eq_true, true_and, Option.isSome_some, implies_true,
          Except.ok.injEq, eq_comm]

/-- The order ID of a text that is one. -/
theorem orderId_eq_ok_iff {s : String} {key : OrderId} :
    orderId s = .ok key ↔ OrderId.isValid s = true ∧ key = ⟨s⟩ := by
  unfold orderId OrderId.isValid
  cases OrderId.parse s <;> simp [eq_comm]

end Field

/-! ## Forms -/

namespace OrderForm

/-- The fields of a form are **correct** at a time. -/
structure IsCorrect (form : OrderForm) (now : Instant) : Prop where
  username : Text.IsUsername (Text.trim form.username)
  assetId : Text.IsSymbol (Text.trim form.assetId)
  quantity : form.quantity.IsQuantity
  /-- A limit order has a price and a market order has none. -/
  priced : form.orderPrice.isSome = form.orderType.isLimit
  price : ∀ price, form.orderPrice = some price → price.IsPrice
  /-- A limit order has an expiration time. -/
  expires : form.orderType.isLimit = true → form.expiresAt.isSome = true
  expiresAt : ∀ t, form.expiresAt = some t → t.ExpiresWithin 365 now

/-- The **request** of a form: the user name without blanks, the asset symbol without blanks and in
uppercase, and all else as it is. -/
def request (form : OrderForm) : OrderRequest :=
  { username := ⟨Text.trim form.username⟩
    orderType := form.orderType
    assetId := ⟨Text.uppercase (Text.trim form.assetId)⟩
    quantity := form.quantity
    orderPrice := form.orderPrice
    expiresAt := form.expiresAt }

/-- A form is accepted exactly if its fields are correct, and then it stands for its request. -/
theorem check_eq_ok_iff {form : OrderForm} {now : Instant} {request : OrderRequest} :
    form.check now = .ok request ↔ form.IsCorrect now ∧ request = form.request := by
  unfold check
  simp only [bind_eq_ok_iff, Field.username_eq_ok_iff, Field.assetId_eq_ok_iff,
    Field.quantity_eq_ok_iff, Field.limitPrice_eq_ok_iff, Field.expiresAt_eq_ok_iff]
  constructor
  · rintro ⟨_, ⟨hname, rfl⟩, _, ⟨hsymbol, rfl⟩, _, ⟨hquantity, rfl⟩, _, ⟨hpriced, hprice, rfl⟩, _,
      ⟨hexpires, hexpiresAt, rfl⟩, h⟩
    exact ⟨⟨hname, hsymbol, hquantity, hpriced, hprice, hexpires, hexpiresAt⟩,
      (Except.ok.inj h).symm⟩
  · rintro ⟨h, rfl⟩
    exact ⟨_, ⟨h.username, rfl⟩, _, ⟨h.assetId, rfl⟩, _, ⟨h.quantity, rfl⟩, _,
      ⟨h.priced, h.price, rfl⟩, _, ⟨h.expires, h.expiresAt, rfl⟩, rfl⟩

end OrderForm

end OrderDesk
