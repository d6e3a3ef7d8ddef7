import OrderDesk.Proofs.Layers
import OrderDesk.Proofs.Soundness
import OrderDesk.Proofs.Spelling

/-!
# Forms and orders of the same numbers

Two forms that differ in nothing but how their numbers are written are checked with the same result,
break the same rules, and stand for orders of the same numbers. The wording of an error never shows
how a number was written.

## Main definitions

* `OrderDesk.ExceptRel` — two results that correspond.
* `OrderDesk.OrderForm.SameNumbers`, `OrderDesk.OrderRequest.SameNumbers`,
  `OrderDesk.Order.SameNumbers` — forms, requests and orders of the same numbers.

## Main results

* `OrderDesk.OrderForm.SameNumbers.check` — the checks of the fields come to the same.
* `OrderDesk.OrderRequest.SameNumbers.place` — so do the rules, and the orders that are made.
-/

set_option autoImplicit false

namespace OrderDesk

/-! ## Results that correspond -/

/-- Two results correspond: two values that are related by `Q`, or two errors that are related by
`E`. -/
inductive ExceptRel {ε ε' α β : Type} (E : ε → ε' → Prop) (Q : α → β → Prop) :
    Except ε α → Except ε' β → Prop where
  | ok {a : α} {b : β} (h : Q a b) : ExceptRel E Q (.ok a) (.ok b)
  | error {e : ε} {e' : ε'} (h : E e e') : ExceptRel E Q (.error e) (.error e')

namespace ExceptRel

variable {ε ε' α α' β β' : Type} {E : ε → ε' → Prop} {Q : α → α' → Prop} {R : β → β' → Prop}

/-- One step after another. -/
theorem bind {x : Except ε α} {y : Except ε' α'} {f : α → Except ε β} {g : α' → Except ε' β'}
    (hx : ExceptRel E Q x y) (hf : ∀ a b, Q a b → ExceptRel E R (f a) (g b)) :
    ExceptRel E R (x >>= f) (y >>= g) := by
  cases hx with
  | ok h => exact hf _ _ h
  | error h => exact .error h

/-- The values of both results changed. -/
theorem map {x : Except ε α} {y : Except ε' α'} (hx : ExceptRel E Q x y) {f : α → β} {g : α' → β'}
    (hf : ∀ a b, Q a b → R (f a) (g b)) : ExceptRel E R (f <$> x) (g <$> y) := by
  cases hx with
  | ok h => exact .ok (hf _ _ h)
  | error h => exact .error h

/-- What corresponds is what the results are. -/
theorem remember {x : Except ε α} {y : Except ε' α'} (hx : ExceptRel E Q x y) :
    ExceptRel E (fun a b => Q a b ∧ x = .ok a ∧ y = .ok b) x y := by
  cases hx with
  | ok h => exact .ok ⟨h, Eq.refl _, Eq.refl _⟩
  | error h => exact .error h

/-- A result corresponds to itself. -/
theorem rfl {x : Except ε α} : ExceptRel Eq Eq x x := by
  cases x with
  | ok a => exact .ok (Eq.refl a)
  | error e => exact .error (Eq.refl e)

end ExceptRel

/-! ## Records of the same numbers -/

open Decimal (SameNumber)

/-- Two forms of the same numbers. -/
structure OrderForm.SameNumbers (f g : OrderForm) : Prop where
  username : f.username = g.username
  orderType : f.orderType = g.orderType
  assetId : f.assetId = g.assetId
  quantity : f.quantity.SameNumber g.quantity
  orderPrice : Option.Rel SameNumber f.orderPrice g.orderPrice
  expiresAt : f.expiresAt = g.expiresAt

/-- Two requests of the same numbers. -/
structure OrderRequest.SameNumbers (r s : OrderRequest) : Prop where
  username : r.username = s.username
  orderType : r.orderType = s.orderType
  assetId : r.assetId = s.assetId
  quantity : r.quantity.SameNumber s.quantity
  orderPrice : Option.Rel SameNumber r.orderPrice s.orderPrice
  expiresAt : r.expiresAt = s.expiresAt

/-- Two stored records of the same numbers. -/
structure OrderRecord.SameNumbers (r s : OrderRecord) : Prop where
  orderId : r.orderId = s.orderId
  username : r.username = s.username
  orderType : r.orderType = s.orderType
  assetId : r.assetId = s.assetId
  quantity : r.quantity.SameNumber s.quantity
  orderPrice : Option.Rel SameNumber r.orderPrice s.orderPrice
  totalAmount : r.totalAmount.SameNumber s.totalAmount
  status : r.status = s.status
  expiresAt : r.expiresAt = s.expiresAt
  createdAt : r.createdAt = s.createdAt
  updatedAt : r.updatedAt = s.updatedAt

/-- Two orders of the same numbers. -/
def Order.SameNumbers (o p : Order) : Prop :=
  o.toOrderRecord.SameNumbers p.toOrderRecord

/-- Two orders of the same numbers, as clients see them. -/
structure OrderView.SameNumbers (v w : OrderView) : Prop where
  record : v.toOrderRecord.SameNumbers w.toOrderRecord
  side : v.side = w.side

namespace Order.SameNumbers

variable {o p : Order}

/-- Orders of the same numbers are on the same side. -/
theorem side_eq (h : o.SameNumbers p) : o.side = p.side := by
  unfold Order.side
  rw [h.orderType]

/-- Orders of the same numbers are seen as such. -/
theorem view (h : o.SameNumbers p) : o.view.SameNumbers p.view :=
  ⟨h, h.side_eq⟩

end Order.SameNumbers

/-! ## Rules -/

namespace Rules

variable {q q' p p' : Decimal} {orderType : OrderType} {price price' : Option Decimal}
  {expiresAt : Option Instant} {now : Instant}

/-- The range of a quantity is one of numbers. -/
theorem quantityRange_congr (h : q.SameNumber q') : quantityRange q = quantityRange q' := by
  unfold quantityRange
  simp only [h.lt_iff (.refl _), SameNumber.lt_iff (.refl _) h]

/-- The places of a quantity are those of the number. -/
theorem quantityPrecision_congr (h : q.SameNumber q') :
    quantityPrecision q = quantityPrecision q' := by
  unfold quantityPrecision
  rw [h.fractionDigits_eq]

/-- The places of a price are those of the number. -/
theorem pricePrecision_congr (h : p.SameNumber p') : pricePrecision p = pricePrecision p' := by
  unfold pricePrecision
  rw [h.fractionDigits_eq]

/-- Whether there is a price is no matter of its spelling. -/
theorem priceRequirement_congr (h : Option.Rel SameNumber price price') :
    priceRequirement orderType price = priceRequirement orderType price' := by
  cases h with
  | none => rfl
  | some _ => cases orderType <;> rfl

/-- The same rules are broken, and they are reported in the same words. -/
theorem violations_congr (hq : q.SameNumber q') (hp : Option.Rel SameNumber price price') :
    violations orderType q price expiresAt now = violations orderType q' price' expiresAt now := by
  unfold violations
  rw [quantityRange_congr hq, quantityPrecision_congr hq, priceRequirement_congr hp]
  cases hp with
  | none => rfl
  | some hp => simp only [pricePrecision_congr hp]

/-- The values are the same numbers, or both are out of range. -/
theorem notional_congr (hq : q.SameNumber q') (hp : p.SameNumber p') :
    ExceptRel Eq SameNumber (notional q p) (notional q' p') := by
  have hproduct := hq.product? hp
  unfold notional
  generalize q.product? p = value? at hproduct ⊢
  generalize q'.product? p' = value'? at hproduct ⊢
  cases hproduct with
  | none => exact .error rfl
  | some h => exact .ok h

/-- A value that is too small is so in every spelling, and it is reported in the same words: with
two places, whatever the places of the value are. -/
theorem orderValue_congr (hq : q.SameNumber q') (hp : p.SameNumber p') (hqpos : 0 ≤ q.coefficient)
    (hppos : 0 ≤ p.coefficient) :
    ExceptRel (fun e e' => e.message = e'.message) Eq (orderValue orderType q (some p))
      (orderValue orderType q' (some p')) := by
  unfold orderValue
  split
  · exact .ok rfl
  have hsame := notional_congr hq hp
  have hqpos' := hq.nonneg_iff.1 hqpos
  have hppos' := hp.nonneg_iff.1 hppos
  simp only [Option.getD_some]
  generalize hvalue : notional q p = result at hsame ⊢
  generalize hvalue' : notional q' p' = result' at hsame ⊢
  cases hsame with
  | error h => exact .error (congrArg RuleViolation.message h)
  | @ok value value' h =>
    have hsign := Decimal.isNegative_of_product? hqpos hppos (notional_eq_ok_iff.1 hvalue)
    have hsign' := Decimal.isNegative_of_product? hqpos' hppos' (notional_eq_ok_iff.1 hvalue')
    have hless : value < minOrderValue ↔ value' < minOrderValue := h.lt_iff (.refl minOrderValue)
    have htruncated : value.truncated = value'.truncated :=
      h.truncated_eq (by rw [hsign, hsign'])
    have htext : (RuleViolation.valueTooSmall value).message =
        (RuleViolation.valueTooSmall value').message :=
      congrArg (fun text => "Order value " ++ text ++ " is below minimum of " ++
        minOrderValue.truncated) htruncated
    by_cases hsmall : value < minOrderValue
    · have hsmall' : value' < minOrderValue := hless.1 hsmall
      simp only [if_pos hsmall, if_pos hsmall']
      exact .error htext
    · have hsmall' : ¬value' < minOrderValue := fun hv => hsmall (hless.2 hv)
      simp only [if_neg hsmall, if_neg hsmall']
      exact .ok rfl

end Rules

/-! ## Fields -/

namespace Field

variable {q q' p p' : Decimal} {orderType : OrderType} {limit limit' : Option Decimal}

/-- A quantity is checked as a number. -/
theorem quantity_congr (h : q.SameNumber q') :
    ExceptRel Eq SameNumber (quantity q) (quantity q') := by
  unfold quantity
  have hpositive : q ≤ Decimal.zero ↔ q' ≤ Decimal.zero := h.le_iff (.refl Decimal.zero)
  simp only [hpositive, Rules.quantityPrecision_congr h, Rules.quantityRange_congr h]
  split
  · exact .error rfl
  refine ExceptRel.bind (Q := Eq) .rfl fun _ _ _ => ?_
  refine ExceptRel.bind (Q := Eq) .rfl fun _ _ _ => ?_
  exact .ok h

/-- A limit price is checked as a number. -/
theorem price_congr (h : p.SameNumber p') : ExceptRel Eq SameNumber (price p) (price p') := by
  unfold price
  have hpositive : p ≤ Decimal.zero ↔ p' ≤ Decimal.zero := h.le_iff (.refl Decimal.zero)
  have hmax : maxPrice < p ↔ maxPrice < p' := SameNumber.lt_iff (.refl maxPrice) h
  simp only [hpositive, hmax, Rules.pricePrecision_congr h]
  split
  · exact .error rfl
  refine ExceptRel.bind (Q := Eq) .rfl fun _ _ _ => ?_
  split
  · exact .error rfl
  · exact .ok h

/-- The price of a form is checked as a number. -/
theorem limitPrice_congr (h : Option.Rel SameNumber limit limit') :
    ExceptRel Eq (Option.Rel SameNumber) (limitPrice orderType limit)
      (limitPrice orderType limit') := by
  unfold limitPrice
  cases h with
  | none =>
    cases orderType.isLimit with
    | true => exact .error rfl
    | false => exact .ok .none
  | some h =>
    cases orderType.isLimit with
    | true => exact (price_congr h).map fun _ _ hp => .some hp
    | false => exact .error rfl

end Field

/-- **The fields come to the same.** Two forms of the same numbers have the same first wrong field,
or they stand for requests of the same numbers. -/
theorem OrderForm.SameNumbers.check {f g : OrderForm} (h : f.SameNumbers g) (now : Instant) :
    ExceptRel Eq OrderRequest.SameNumbers (f.check now) (g.check now) := by
  unfold OrderForm.check
  rw [h.username, h.assetId, h.orderType, h.expiresAt]
  refine ExceptRel.bind (Q := Eq) .rfl fun username _ hname => ?_
  refine ExceptRel.bind (Q := Eq) .rfl fun assetId _ hasset => ?_
  refine (Field.quantity_congr h.quantity).bind fun q q' hq => ?_
  refine (Field.limitPrice_congr h.orderPrice).bind fun p p' hp => ?_
  refine ExceptRel.bind (Q := Eq) .rfl fun expiresAt _ hexpires => ?_
  exact .ok ⟨hname, rfl, hasset, hq, hp, hexpires⟩

/-! ## New orders -/

/-- **The orders are the same numbers.** Two requests of the same numbers break the same rules, or
their values are out of range, or the orders that are made for them are of the same numbers. -/
theorem OrderRequest.SameNumbers.place {r s : OrderRequest} (h : r.SameNumbers s) {p p' : Decimal}
    (hp : p.SameNumber p') (now idTime : Instant) (token : Uuid) :
    ExceptRel Eq Order.SameNumbers (Order.place r p now idTime token)
      (Order.place s p' now idTime token) := by
  have hrules : Rules.violations r.orderType r.quantity r.orderPrice r.expiresAt now =
      Rules.violations s.orderType s.quantity s.orderPrice s.expiresAt now := by
    rw [h.orderType, h.expiresAt, Rules.violations_congr h.quantity h.orderPrice]
  by_cases hbroken : Rules.violations s.orderType s.quantity s.orderPrice s.expiresAt now = []
  · have hsame := Rules.notional_congr h.quantity hp
    generalize hvalue : Rules.notional r.quantity p = result at hsame
    generalize hvalue' : Rules.notional s.quantity p' = result' at hsame
    cases hsame with
    | error he =>
      rw [Order.place_of_notional (hrules.trans hbroken) hvalue,
        Order.place_of_notional hbroken hvalue', he]
      exact .error rfl
    | ok hv =>
      obtain ⟨o, ho⟩ : ∃ o, Order.place r p now idTime token = .ok o :=
        Order.exists_place (hrules.trans hbroken) hvalue
      obtain ⟨o', ho'⟩ : ∃ o', Order.place s p' now idTime token = .ok o' :=
        Order.exists_place hbroken hvalue'
      have hnew := Order.isNew_of_place ho
      have hnew' := Order.isNew_of_place ho'
      have htotal := Except.ok.inj (hnew.totalAmount.symm.trans hvalue)
      have htotal' := Except.ok.inj (hnew'.totalAmount.symm.trans hvalue')
      rw [ho, ho']
      exact .ok
        { orderId := by rw [hnew.orderId, hnew'.orderId, h.username]
          username := by rw [hnew.username, hnew'.username, h.username]
          orderType := by rw [hnew.orderType, hnew'.orderType, h.orderType]
          assetId := by rw [hnew.assetId, hnew'.assetId, h.assetId]
          quantity := by rw [hnew.quantity, hnew'.quantity]; exact h.quantity
          orderPrice := by rw [hnew.orderPrice, hnew'.orderPrice]; exact h.orderPrice
          totalAmount := by rw [htotal, htotal']; exact hv
          status := by rw [hnew.status, hnew'.status]
          expiresAt := by rw [hnew.expiresAt, hnew'.expiresAt, h.expiresAt]
          createdAt := by rw [hnew.createdAt, hnew'.createdAt]
          updatedAt := by rw [hnew.updatedAt, hnew'.updatedAt] }
  · rw [Order.place_of_violations rfl hbroken, Order.place_of_violations hrules hbroken]
    exact .error rfl

end OrderDesk
