import OrderDesk.Proofs.Components
import OrderDesk.Proofs.Fields

/-!
# Sound orders

What every order satisfies that the service has placed. The facts come from different checks of the
form, from the price that was found and from the rules on orders, and they speak of the terms of the
order only. So they stay true of every later version.

## Main definitions

* `OrderDesk.Order.IsSound` — an order as the service places it.

## Main results

* `OrderDesk.Order.isSound_of_place` — a placed order is sound.
* `OrderDesk.Order.IsSound.of_sameTerms` — an order on the same terms is sound as well.
-/

set_option autoImplicit false

namespace OrderDesk

namespace Order

/-- An order is **sound**: it is as the service places one. -/
structure IsSound (o : Order) : Prop where
  orderId : ∃ components, OrderId.parse o.orderId.text = .ok components
  username : Field.username o.username.text = .ok o.username
  assetId : Field.assetId o.assetId.text = .ok o.assetId
  quantity : o.quantity.IsQuantity
  /-- A limit order has a price and a market order has none. -/
  priced : o.orderPrice.isSome = o.orderType.isLimit
  price : ∀ price, o.orderPrice = some price → price.IsPrice
  /-- The value of a limit order is exact. -/
  value : ∀ price, o.orderPrice = some price →
    o.totalAmount.value = o.quantity.value * price.value
  nonneg : 0 ≤ o.totalAmount.value
  worth : o.side = .buy → 1 ≤ o.totalAmount.value
  /-- A limit order has an expiration time. -/
  expires : o.orderType.isLimit = true → o.expiresAt.isSome = true
  expiresAt : ∀ t, o.expiresAt = some t → t.ExpiresWithin 30 o.createdAt

/-- An order on the same terms is sound as well. -/
theorem IsSound.of_sameTerms {a b : Order} (ha : a.IsSound) (h : SameTerms a b) : b.IsSound where
  orderId := h.orderId ▸ ha.orderId
  username := h.username ▸ ha.username
  assetId := h.assetId ▸ ha.assetId
  quantity := h.quantity ▸ ha.quantity
  priced := b.isSome_orderPrice
  price := h.orderPrice ▸ ha.price
  value := by
    rw [h.orderPrice, h.totalAmount, h.quantity]
    exact ha.value
  nonneg := h.totalAmount ▸ ha.nonneg
  worth := by
    rw [h.side, h.totalAmount]
    exact ha.worth
  expires := by
    rw [h.orderType, h.expiresAt]
    exact ha.expires
  expiresAt := by
    rw [h.expiresAt, h.createdAt]
    exact ha.expiresAt

/-- The value of a quantity at a limit price is in range and exact, in however many places the two
are written: it needs no more than ten places. -/
theorem exists_notional {quantity price : Decimal} (hquantity : quantity.IsQuantity)
    (hprice : price.IsPrice) :
    ∃ value, Rules.notional quantity price = .ok value ∧
      value.value = quantity.value * price.value := by
  have hnonneg : 0 ≤ quantity.value * price.value :=
    mul_nonneg (le_trans (by norm_num) hquantity.range.1) hprice.range.1.le
  have hle : quantity.value * price.value ≤ 1000 * 1000000 :=
    mul_le_mul hquantity.range.2 hprice.range.2 hprice.range.1.le (by norm_num)
  have hfits : |quantity.value * price.value| * 10 ^ (8 + 2) < 2 ^ 96 := by
    rw [abs_of_nonneg hnonneg]
    calc quantity.value * price.value * 10 ^ (8 + 2)
        ≤ 1000 * 1000000 * 10 ^ (8 + 2) := mul_le_mul_of_nonneg_right hle (by norm_num)
      _ < 2 ^ 96 := by norm_num
  obtain ⟨value, hproduct, hexact⟩ :=
    Decimal.value_of_product? hquantity.places hprice.places (by norm_num) hfits
  exact ⟨value, Rules.notional_eq_ok_iff.2 hproduct, hexact⟩

/-- The value of a quantity at a limit price is exact. -/
theorem value_of_notional {quantity price value : Decimal} (hquantity : quantity.IsQuantity)
    (hprice : price.IsPrice) (h : Rules.notional quantity price = .ok value) :
    value.value = quantity.value * price.value := by
  obtain ⟨exact, hnotional, hexact⟩ := exists_notional hquantity hprice
  rw [h] at hnotional
  cases hnotional
  exact hexact

/-- The value of a quantity and a price without minus signs has no minus sign. -/
theorem isNegative_of_place {request : OrderRequest} {price : Decimal} {now idTime : Instant}
    {token : Uuid} {o : Order} (hquantity : 0 ≤ request.quantity.coefficient)
    (hprice : 0 ≤ price.coefficient) (h : place request price now idTime token = .ok o) :
    o.totalAmount.isNegative = false :=
  Decimal.isNegative_of_product? hquantity hprice
    (Rules.notional_eq_ok_iff.1 (isNew_of_place h).totalAmount)

/-- The value of an order that the service places has no minus sign, whatever it is valued by: a
limit price or a positive market price. -/
theorem isNegative_totalAmount_of_place {form : OrderForm} {now idTime : Instant} {token : Uuid}
    {price : Decimal} (hform : form.IsCorrect now)
    (hprice : ∀ limit, form.orderPrice = some limit → price = limit)
    (hmarket : form.orderPrice = none → 0 < price.value) {o : Order}
    (h : place form.request price now idTime token = .ok o) :
    o.totalAmount.isNegative = false := by
  refine isNegative_of_place hform.quantity.nonneg ?_ h
  cases hlimit : form.orderPrice with
  | none => exact Decimal.value_nonneg.1 (hmarket hlimit).le
  | some limit =>
    rw [hprice limit hlimit]
    exact Decimal.value_nonneg.1 (hform.price limit hlimit).range.1.le

/-- An order that the service places is sound.

**Proof sketch.** The fields of the form have been checked, the price is the limit price or a
positive market price, the order is worth enough if it buys, and no rule is broken. -/
theorem isSound_of_place {form : OrderForm} {now idTime : Instant} {token : Uuid} {price : Decimal}
    (hform : form.IsCorrect now) (hprice : ∀ limit, form.orderPrice = some limit → price = limit)
    (hmarket : form.orderPrice = none → 0 < price.value)
    (hworth : Rules.orderValue form.orderType form.quantity (some price) = .ok ()) {o : Order}
    (h : place form.request price now idTime token = .ok o) : o.IsSound := by
  have hnew := isNew_of_place h
  have hvalue := hnew.totalAmount
  obtain ⟨-, -, -, hexpires⟩ := Rules.violations_eq_nil_iff.1 (violations_of_place h)
  exact
    { orderId := hnew.orderId ▸ ⟨_, OrderId.parse_standard _ _ _⟩
      username := by
        rw [hnew.username]
        exact Field.username_of_username (Field.username_eq_ok_iff.2 ⟨hform.username, rfl⟩)
      assetId := by
        rw [hnew.assetId]
        exact Field.assetId_of_assetId (Field.assetId_eq_ok_iff.2 ⟨hform.assetId, rfl⟩)
      quantity := hnew.quantity ▸ hform.quantity
      priced := o.isSome_orderPrice
      price := hnew.orderPrice ▸ hform.price
      value := by
        intro limit hlimit
        rw [hnew.orderPrice] at hlimit
        rw [hprice limit hlimit] at hvalue
        rw [hnew.quantity]
        exact value_of_notional hform.quantity (hform.price limit hlimit) hvalue
      nonneg := Decimal.value_nonneg.2 (Decimal.nonneg_of_isNegative
        (isNegative_totalAmount_of_place hform hprice hmarket h))
      worth := by
        intro hside
        refine (Rules.orderValue_eq_ok_iff hvalue).1 hworth ?_
        rw [side, hnew.orderType] at hside
        exact beq_iff_eq.2 hside
      expires := by
        rw [hnew.orderType, hnew.expiresAt]
        exact hform.expires
      expiresAt := by
        rw [hnew.expiresAt, hnew.createdAt]
        exact hexpires }

end Order

end OrderDesk
