import OrderDesk.Proofs.Fields

/-!
# Two layers of checks

A form is checked field by field, and the rules on orders are asked of the request that it stands
for. Both layers look at the quantity and the price, in an order of their own: the fields stop at
the first thing that is wrong, the rules collect everything. They accept the same numbers, however
these are written. So the rules have nothing new to say about a form whose fields are correct, but
for the expiration time, where they are stricter.

## Main results

* `OrderDesk.Rules.violations_of_isCorrect` — what the rules say after the fields.
* `OrderDesk.Order.place_of_isCorrect` — how an order can fail to be made after the fields.
* `OrderDesk.OrderForm.layers_agree` — the two layers side by side.
-/

set_option autoImplicit false

namespace OrderDesk

namespace Rules

variable {q p : Decimal} {orderType : OrderType} {price : Option Decimal}
  {expiresAt : Option Instant} {now : Instant} {v : RuleViolation}

/-! ## What a violation speaks of -/

/-- A rule on the range of a quantity speaks of the quantity. -/
theorem field_of_quantityRange (h : v ∈ broken (quantityRange q)) : v.field = "quantity" := by
  unfold quantityRange at h
  split at h
  · rw [List.mem_singleton.1 h]
    rfl
  split at h
  · rw [List.mem_singleton.1 h]
    rfl
  · cases h

/-- A rule on the places of a quantity speaks of the quantity. -/
theorem field_of_quantityPrecision (h : v ∈ broken (quantityPrecision q)) :
    v.field = "quantity" := by
  unfold quantityPrecision at h
  split at h
  · rw [List.mem_singleton.1 h]
    rfl
  · cases h

/-- A rule on the places of a price speaks of the price. -/
theorem field_of_pricePrecision (h : v ∈ broken (pricePrecision p)) : v.field = "order_price" := by
  unfold pricePrecision at h
  split at h
  · rw [List.mem_singleton.1 h]
    rfl
  · cases h

/-- A rule on the presence of a price speaks of the price. -/
theorem field_of_priceRequirement (h : v ∈ broken (priceRequirement orderType price)) :
    v.field = "order_price" := by
  unfold priceRequirement at h
  split at h
  · rw [List.mem_singleton.1 h]
    rfl
  · rw [List.mem_singleton.1 h]
    rfl
  · cases h

/-- A rule on the expiration time speaks of it. -/
theorem field_of_expiration (h : v ∈ broken (expiration expiresAt now)) :
    v.field = "expires_at" := by
  unfold expiration at h
  split at h
  · cases h
  split at h
  · rw [List.mem_singleton.1 h]
    rfl
  split at h
  · rw [List.mem_singleton.1 h]
    rfl
  · cases h

/-- Nothing is held against the quantity of an order exactly if it is one: the other rules speak of
other fields. -/
theorem no_quantity_violation_iff :
    (∀ v ∈ violations orderType q price expiresAt now, v.field ≠ "quantity") ↔ q.IsQuantity := by
  constructor
  · intro h
    have hrange : broken (quantityRange q) = [] := by
      apply List.eq_nil_iff_forall_not_mem.2
      intro v hv
      apply h v _ (field_of_quantityRange hv)
      simp [violations, hv]
    have hplaces : broken (quantityPrecision q) = [] := by
      apply List.eq_nil_iff_forall_not_mem.2
      intro v hv
      apply h v _ (field_of_quantityPrecision hv)
      simp [violations, hv]
    exact ⟨quantityRange_eq_ok_iff.1 ((broken_eq_nil_iff _).1 hrange),
      quantityPrecision_eq_ok_iff.1 ((broken_eq_nil_iff _).1 hplaces)⟩
  · intro h v hv
    have hrange := (broken_eq_nil_iff _).2 (quantityRange_eq_ok_iff.2 h.range)
    have hplaces := (broken_eq_nil_iff _).2 (quantityPrecision_eq_ok_iff.2 h.places)
    unfold violations at hv
    rw [hrange, hplaces, List.nil_append, List.nil_append] at hv
    rcases List.mem_append.1 hv with hv | hv
    · rcases List.mem_append.1 hv with hv | hv
      · cases price with
        | none => cases hv
        | some p =>
          rw [field_of_pricePrecision hv]
          decide
      · rw [field_of_priceRequirement hv]
        decide
    · rw [field_of_expiration hv]
      decide

/-! ## The rules after the fields -/

/-- The rule on an expiration time that lies ahead. -/
theorem expiration_of_later (h : ∀ t, expiresAt = some t → now < t) :
    expiration expiresAt now =
      if ∀ t, expiresAt = some t → t ≤ now.plusDays 30 then .ok () else .error .expiresTooLate := by
  cases expiresAt with
  | none => simp [expiration]
  | some t =>
    have hpast : ¬t ≤ now := Instant.not_le.2 (h t rfl)
    by_cases hlate : now.plusDays maxExpirationDays < t
    · have hfar : ¬t ≤ now.plusDays 30 := Instant.not_le.2 hlate
      simp [expiration, hpast, hlate, hfar]
    · have hnear : t ≤ now.plusDays 30 := Instant.not_lt.1 hlate
      simp [expiration, hpast, hlate, hnear]

/-- **What the rules say after the fields.** Of a form with correct fields nothing can be broken but
the rule that an order expires within thirty days. -/
theorem violations_of_isCorrect {form : OrderForm} (h : form.IsCorrect now) :
    violations form.orderType form.quantity form.orderPrice form.expiresAt now =
      if ∀ t, form.expiresAt = some t → t ≤ now.plusDays 30 then [] else [.expiresTooLate] := by
  have hrange := quantityRange_eq_ok_iff.2 h.quantity.range
  have hplaces := quantityPrecision_eq_ok_iff.2 h.quantity.places
  have hrequired := (priceRequirement_eq_ok_iff _ _).2 h.priced
  have hexpires := expiration_of_later fun t ht => (h.expiresAt t ht).1
  have hwithin : violations form.orderType form.quantity form.orderPrice form.expiresAt now =
      broken (expiration form.expiresAt now) := by
    unfold violations
    rw [hrange, hplaces, hrequired]
    cases hp : form.orderPrice with
    | none => rfl
    | some p =>
      have hprice := pricePrecision_eq_ok_iff.2 (h.price p hp).places
      show broken (pricePrecision p) ++ [] ++ _ = _
      rw [hprice]
      rfl
  rw [hwithin, hexpires]
  split <;> rfl

end Rules

namespace Order

variable {request : OrderRequest} {price : Decimal} {now idTime : Instant} {token : Uuid}

/-- An order that breaks rules is not made, and all of them are reported. -/
theorem place_of_violations {violations : List RuleViolation}
    (hrules : Rules.violations request.orderType request.quantity request.orderPrice
      request.expiresAt now = violations) (hbroken : violations ≠ []) :
    place request price now idTime token = .error (.ruleViolations violations) := by
  subst hrules
  exact dif_neg hbroken

/-- An order whose value is out of range is not made. -/
theorem place_of_notional {e : RuleViolation}
    (hrules : Rules.violations request.orderType request.quantity request.orderPrice
      request.expiresAt now = [])
    (hvalue : Rules.notional request.quantity price = .error e) :
    place request price now idTime token = .error (.ruleViolations [e]) := by
  unfold place
  dsimp only
  rw [dif_pos hrules]
  split
  · next h =>
    rw [h] at hvalue
    rw [Except.error.inj hvalue]
  · next h => cases h.symm.trans hvalue

/-- **How an order can fail to be made after the fields.** It expires too late, or its value is out
of range. -/
theorem place_of_isCorrect {form : OrderForm} (h : form.IsCorrect now) (price : Decimal)
    (idTime : Instant) (token : Uuid) :
    let inTime := ∀ t, form.expiresAt = some t → t ≤ now.plusDays 30
    match place form.request price now idTime token with
    | .ok order => inTime ∧ form.quantity.product? price = some order.totalAmount
    | .error e =>
      (¬inTime ∧ e = .ruleViolations [.expiresTooLate]) ∨
        (inTime ∧ form.quantity.product? price = none ∧
          e = .ruleViolations [.valueOutOfRange]) := by
  intro inTime
  have hrules : Rules.violations form.request.orderType form.request.quantity
      form.request.orderPrice form.request.expiresAt now =
        if inTime then [] else [.expiresTooLate] := Rules.violations_of_isCorrect h
  by_cases hkept : inTime
  · rw [if_pos hkept] at hrules
    cases hproduct : form.quantity.product? price with
    | some value =>
      have hvalue : Rules.notional form.request.quantity price = .ok value :=
        Rules.notional_eq_ok_iff.2 hproduct
      obtain ⟨order, horder⟩ : ∃ order, place form.request price now idTime token = .ok order :=
        exists_place hrules hvalue
      have htotal := (isNew_of_place horder).totalAmount
      rw [hvalue] at htotal
      rw [horder]
      exact ⟨hkept, congrArg some (Except.ok.inj htotal)⟩
    | none =>
      have hvalue : Rules.notional form.request.quantity price = .error .valueOutOfRange := by
        show Rules.notional form.quantity price = _
        unfold Rules.notional
        rw [hproduct]
      rw [place_of_notional hrules hvalue]
      exact .inr ⟨hkept, rfl, rfl⟩
  · rw [if_neg hkept] at hrules
    rw [place_of_violations hrules (by simp)]
    exact .inl ⟨hkept, rfl⟩

end Order

/-- **The two layers agree.** The fields accept a quantity exactly if the rules hold nothing against
it, and that is a matter of its number alone; so it is with a price. Of a request that has passed
the fields the rules say nothing but that it expires too late, if it does, and its order is made
unless it expires too late or its value is out of range.

**Proof sketch.** Trailing zeros are not counted as places, so that a number has `k` places exactly
if it is a whole number after `k` shifts (`Decimal.fractionDigits_le_iff`). The rules are asked one
after the other of fields that are known to be correct. -/
theorem OrderForm.layers_agree :
    (∀ q : Decimal,
      ((∃ checked, Field.quantity q = .ok checked) ↔
        1 / 1000 ≤ q.value ∧ q.value ≤ 1000 ∧ ∃ n : ℤ, q.value * 10 ^ 8 = n) ∧
      ∀ orderType price expiresAt now,
        (∃ checked, Field.quantity q = .ok checked) ↔
          ∀ v ∈ Rules.violations orderType q price expiresAt now, v.field ≠ "quantity") ∧
    (∀ p : Decimal, (∃ checked, Field.price p = .ok checked) ↔
      0 < p.value ∧ p.value ≤ 1000000 ∧ ∃ n : ℤ, p.value * 10 ^ 2 = n) ∧
    ∀ (form : OrderForm) (now : Instant) (request : OrderRequest),
      form.check now = .ok request →
      let inTime := ∀ t, request.expiresAt = some t → t ≤ now.plusDays 30
      let violations := Rules.violations request.orderType request.quantity request.orderPrice
        request.expiresAt now
      (inTime → violations = []) ∧
      (¬inTime → ∃ v, violations = [v] ∧ v.field = "expires_at") ∧
      ∀ price idTime token,
        match Order.place request price now idTime token with
        | .ok order => inTime ∧ request.quantity.product? price = some order.totalAmount
        | .error e =>
          (¬inTime ∧ e = .ruleViolations [.expiresTooLate]) ∨
            (inTime ∧ request.quantity.product? price = none ∧
              e = .ruleViolations [.valueOutOfRange]) := by
  have hquantity (q : Decimal) : (∃ checked, Field.quantity q = .ok checked) ↔ q.IsQuantity := by
    simp [Field.quantity_eq_ok_iff]
  refine ⟨fun q => ⟨?_, fun orderType price expiresAt now => ?_⟩, fun p => ?_, ?_⟩
  · rw [hquantity]
    constructor
    · intro h
      exact ⟨h.range.1, h.range.2, h.places⟩
    · rintro ⟨hleast, hmost, hplaces⟩
      exact ⟨⟨hleast, hmost⟩, hplaces⟩
  · rw [hquantity]
    exact Rules.no_quantity_violation_iff.symm
  · simp only [Field.price_eq_ok_iff, exists_eq_right]
    constructor
    · intro h
      exact ⟨h.range.1, h.range.2, h.places⟩
    · rintro ⟨hpositive, hmost, hplaces⟩
      exact ⟨⟨hpositive, hmost⟩, hplaces⟩
  · intro form now request hcheck
    obtain ⟨hcorrect, rfl⟩ := check_eq_ok_iff.1 hcheck
    intro inTime violations
    have hrules : violations = if inTime then [] else [.expiresTooLate] :=
      Rules.violations_of_isCorrect hcorrect
    refine ⟨fun hkept => ?_, fun hlate => ?_, fun price idTime token => ?_⟩
    · rw [hrules, if_pos hkept]
    · rw [if_neg hlate] at hrules
      exact ⟨_, hrules, rfl⟩
    · exact Order.place_of_isCorrect hcorrect price idTime token

/-- A limit order that expires after two hundred days passes the fields, and the rules hold this one
thing against it. -/
theorem OrderForm.layers_agree_of_late_expiration :
    let form : OrderForm :=
      { username := "alice", orderType := .limitSell, assetId := "btc", quantity := 0.500000000,
        orderPrice := some 100.100, expiresAt := some (.ofSeconds 1717280000) }
    let now : Instant := .ofSeconds 1700000000
    form.check now = .ok form.request ∧ ¬Instant.ofSeconds 1717280000 ≤ now.plusDays 30 ∧
      ∃ v, Rules.violations form.orderType form.quantity form.orderPrice form.expiresAt now = [v] ∧
        v.field = "expires_at" := by
  intro form now
  have hcheck : form.check now = .ok form.request := by decide +kernel
  have hlate : ¬Instant.ofSeconds 1717280000 ≤ now.plusDays 30 := by decide
  refine ⟨hcheck, hlate, ?_⟩
  apply (layers_agree.2.2 form now form.request hcheck).2.1
  intro hkept
  exact hlate (hkept _ rfl)

end OrderDesk
