import OrderDesk.Proofs.Acceptance
import OrderDesk.Proofs.Authority

/-!
# Sums that are out of range

The value of an order is a product that is checked: one that is out of range is refused. The money
that an order brings in is added without such a check, so that a call can end without a reply. This
module says exactly when that happens.

## Main definitions

* `OrderDesk.Service.NeverOverflows` — a service with which it does not happen.
* `OrderDesk.OrderForm.Overflows` — the condition under which it happens.

## Main results

* `OrderDesk.Decimal.sum?_eq_none_iff` — when a sum is out of range.
* `OrderDesk.Call.reply_overflows_iff` — only an order that sells overflows, and exactly when.
-/

set_option autoImplicit false

namespace OrderDesk

/-! ## Sums -/

namespace Decimal

/-- A rounded quotient reaches an even number from half a unit below it. -/
theorem le_roundHalfEven_iff {n d q : Nat} (hd : 0 < d) :
    2 * q ≤ roundHalfEven n d ↔ 4 * q * d ≤ 2 * n + d := by
  have hn := Nat.div_add_mod n d
  have hlt := Nat.mod_lt n hd
  unfold roundHalfEven
  dsimp only
  generalize n / d = quotient at hn ⊢
  generalize n % d = remainder at hn hlt ⊢
  have hdouble : 2 * n = 2 * quotient * d + 2 * remainder := by
    rw [← hn]
    ring
  rw [hdouble]
  rcases Nat.lt_trichotomy (quotient + 1) (2 * q) with hless | heq | hmore
  · have hbelow : 2 * quotient * d + 4 * d ≤ 4 * q * d := by nlinarith
    constructor
    · intro h
      split at h <;> omega
    · omega
  · -- the quotient is odd, so a half is rounded up to the even number
    have hjust : 4 * q * d = 2 * quotient * d + 2 * d := by
      rw [show 4 * q = 2 * quotient + 2 by omega]
      ring
    have hodd : quotient % 2 = 1 := by omega
    rw [hjust]
    split <;> omega
  · have habove : 4 * q * d ≤ 2 * quotient * d := by nlinarith
    constructor
    · omega
    · intro
      split <;> omega

/-- The size of what is left when places are dropped. -/
theorem natAbs_dropPlaces (n : Int) (k : Nat) :
    (dropPlaces n k).natAbs = roundHalfEven n.natAbs (10 ^ k) := by
  unfold dropPlaces
  split <;> simp

/-- An exact result is out of range exactly if it comes within half a unit of `2 ^ 96`: then all of
its roundings are out of range, and otherwise the rounding to a whole number is not. -/
theorem ofScaled?_eq_none_iff {n : Int} {s : Nat} :
    ofScaled? n s = none ↔ 2 ^ 97 * 10 ^ s ≤ 2 * n.natAbs + 10 ^ s := by
  have hreach (k : Nat) : 2 ^ 96 ≤ (dropPlaces n k).natAbs ↔
      2 ^ 97 * 10 ^ k ≤ 2 * n.natAbs + 10 ^ k := by
    rw [natAbs_dropPlaces]
    exact le_roundHalfEven_iff (q := 2 ^ 95) (Nat.pow_pos (Nat.succ_pos 9))
  constructor
  · intro hnone
    rw [← hreach]
    by_contra hless
    obtain ⟨c, hc⟩ := exists_ofScaled? (Nat.le_refl s) (by omega) (Nat.lt_of_not_le hless)
    cases hnone.symm.trans hc
  · intro hlarge
    unfold ofScaled?
    rw [List.findSome?_eq_none_iff]
    intro k hk
    have hpow : 10 ^ k ≤ 10 ^ s :=
      Nat.pow_le_pow_right (by decide) (Nat.le_of_lt_succ (List.mem_range.1 hk))
    have hk := (hreach k).2 (by omega)
    unfold make?
    rw [dif_neg fun h => Nat.not_lt.2 hk h.1]

/-- The sum of two numbers, at the larger of their scales. -/
theorem value_add_value (a b : Decimal) :
    a.value + b.value = sumDigits a b / 10 ^ max a.scale b.scale := by
  rw [← value_rescale a (Nat.le_max_left _ b.scale), ← value_rescale b (Nat.le_max_right a.scale _),
    ← add_div]
  simp [sumDigits]

/-- No number is larger than the largest coefficient. -/
theorem abs_value_le (a : Decimal) : |a.value| ≤ 2 ^ 96 - 1 := by
  have hdigits : |(a.coefficient : ℚ)| ≤ 2 ^ 96 - 1 := by
    have hlt := a.natAbs_lt
    rw [abs_le]
    constructor
    · have : -(2 ^ 96 - 1) ≤ a.coefficient := by omega
      exact_mod_cast this
    · have : a.coefficient ≤ 2 ^ 96 - 1 := by omega
      exact_mod_cast this
  have hscale : (1 : ℚ) ≤ 10 ^ a.scale := one_le_pow₀ (by norm_num)
  unfold value
  rw [abs_div, abs_of_pos (lt_of_lt_of_le one_pos hscale)]
  exact (div_le_self (abs_nonneg _) hscale).trans hdigits

/-- **When a sum is out of range.** Places are rounded away until a sum fits, all of them if need
be, and what is half way is rounded up to `2 ^ 96`, which is even. So a sum is out of range exactly
if it comes within half a unit of `2 ^ 96`. -/
theorem sum?_eq_none_iff {a b : Decimal} :
    a.sum? b = none ↔ 2 ^ 96 - 1 / 2 ≤ |a.value + b.value| := by
  have hfits (c : Decimal) : ¬(2 ^ 96 - 1 / 2 ≤ |c.value|) := by
    have := abs_value_le c
    intro h
    linarith
  unfold sum?
  split
  · next ha => simpa [value_of_coefficient ha] using hfits b
  split
  · next hb => simpa [value_of_coefficient hb] using hfits a
  · have hpow : (0 : ℚ) < 10 ^ max a.scale b.scale := by positivity
    have hcast : ((sumDigits a b).natAbs : ℚ) = |(sumDigits a b : ℚ)| := by
      rw [Nat.cast_natAbs, Int.cast_abs]
    have hdigits : (2 ^ 97 * 10 ^ max a.scale b.scale : ℚ) ≤
          2 * (sumDigits a b).natAbs + 10 ^ max a.scale b.scale ↔
        2 ^ 97 * 10 ^ max a.scale b.scale ≤
          2 * (sumDigits a b).natAbs + 10 ^ max a.scale b.scale := by
      norm_cast
    rw [value_add_value, abs_div, abs_of_pos hpow, le_div_iff₀ hpow, ← hcast]
    refine ofScaled?_eq_none_iff.trans (hdigits.symm.trans ?_)
    constructor <;> intro h <;> linarith

/-- Where nothing negative is added, a sum is out of range only upwards. -/
theorem sum?_eq_none_iff_of_nonneg {a b : Decimal} (hb : 0 ≤ b.coefficient) :
    a.sum? b = none ↔ 2 ^ 96 - 1 / 2 ≤ a.value + b.value := by
  have ha := (abs_le.1 (abs_value_le a)).1
  have hb := value_nonneg.2 hb
  rw [sum?_eq_none_iff, le_abs]
  constructor
  · rintro (h | h)
    · exact h
    · linarith
  · exact .inl

end Decimal

/-- An amount overflows a balance exactly if it is not negative, is added to it and the sum is out
of range; a balance that covers an amount always has a rest in range. -/
theorem Desk.charge_overflows_iff {side : Side} {before : Balance} {amount : Decimal}
    {now : Instant} :
    charge side before amount now = .error .sumOverflow ↔
      amount.isNegative = false ∧ side = .sell ∧
        2 ^ 96 - 1 / 2 ≤ before.current.value + amount.value := by
  cases hsign : amount.isNegative with
  | true => cases side <;> by_cases hcovers : amount ≤ before.current <;>
      simp [charge, Balance.debit, Balance.credit, Balance.covers, hcovers, hsign, ofBalance]
  | false =>
    have hnonneg := Decimal.nonneg_of_isNegative hsign
    cases side with
    | buy =>
      by_cases hcovers : amount ≤ before.current
      · obtain ⟨rest, hrest⟩ := Decimal.exists_difference? hnonneg hcovers
        simp [charge, Balance.debit, Balance.covers, hcovers, hsign, hrest, ofBalance]
      · simp [charge, Balance.covers, hcovers]
    | sell =>
      rw [← Decimal.sum?_eq_none_iff_of_nonneg hnonneg]
      cases hsum : before.current.sum? amount <;>
        simp [charge, Balance.credit, hsign, hsum, ofBalance]

/-- A commit that has the lock overflows exactly if the money of the order does: the balance is
computed before the order ID is looked at. -/
theorem Desk.commit_overflows_iff {d d' : Desk} {m : Moment} {side : Side} {order : Order}
    (hfree : m.stalled = none) :
    d.commit m side order = (.error .sumOverflow, d') ↔
      charge side (d.balanceOf order.username m.now) order.totalAmount m.now =
        .error .sumOverflow ∧ d' = d := by
  unfold commit settle
  rw [hfree]
  cases charge side (d.balanceOf order.username m.now) order.totalAmount m.now with
  | error e => simp [bind, Except.bind, eq_comm]
  | ok balance =>
    have hpersist : d.persist order ≠ .error .sumOverflow := by
      intro h
      unfold persist at h
      split at h <;> cases h
    cases hstored : d.persist order with
    | ok stored => simp [bind, Except.bind, pure, Except.pure]
    | error e =>
      rw [hstored] at hpersist
      simpa [bind, Except.bind] using fun h => absurd (congrArg Except.error h) hpersist

/-! ## Services -/

namespace Service

/-- The service **never overflows**: in no surroundings does it end because a sum is out of
range. -/
def NeverOverflows {α : Type} (x : Service α) : Prop :=
  ∀ (σ : Type) (h : Handler σ) (s s' : σ), x.run h s ≠ (.error .sumOverflow, s')

namespace NeverOverflows

variable {α β : Type}

/-- A value at once. -/
theorem pure (a : α) : NeverOverflows (Pure.pure a) := by
  intro σ h s s' hrun
  cases hrun

/-- A failure at once. -/
theorem refuse (e : ServiceError) : NeverOverflows (Service.refuse e : Service α) := by
  intro σ h s s' hrun
  cases hrun

/-- A request of any kind. -/
theorem ask (request : Request) : NeverOverflows (Service.ask request) := by
  intro σ h s s' hrun
  cases hrun

/-- One step after another. -/
theorem bind {x : Service α} {f : α → Service β} (hx : NeverOverflows x)
    (hf : ∀ a, NeverOverflows (f a)) : NeverOverflows (x >>= f) := by
  intro σ h s s' hrun
  rcases run_bind_error hrun with hfirst | ⟨a, between, -, hrest⟩
  · exact hx σ h s s' hfirst
  · exact hf a σ h between s' hrest

/-- A step that is refused under a condition. -/
theorem guarded {c : Prop} [Decidable c] (e : ServiceError) {rest : Unit → Service α}
    (h : NeverOverflows (rest ())) :
    NeverOverflows (if c then (do let r ← Service.refuse e; rest r) else rest ()) := by
  split
  · intro σ h s s' hrun
    cases hrun
  · exact h

/-- A value that is there, or a failure. -/
theorem ofExcept {ε : Type} (tell : ε → ServiceError) (r : Except ε α) :
    NeverOverflows (Service.ofExcept tell r) := by
  cases r with
  | ok a => exact pure a
  | error e => exact refuse _

/-- A cause is told; an outage is reported before. -/
theorem fail (cause : Cause) : NeverOverflows (Service.fail cause : Service α) := by
  unfold Service.fail
  split
  · exact (ask _).bind fun _ => refuse _
  · exact refuse _

/-- An answer, or its cause. -/
theorem ofAnswer {ε : Type} (cause : ε → Cause) (r : Except ε α) :
    NeverOverflows (Service.ofAnswer cause r) := by
  cases r with
  | ok a => exact pure a
  | error e => exact fail _

/-- A report of an error adds no other end. -/
theorem reporting (event : ServiceError → Event) {x : Service α} (hx : NeverOverflows x) :
    NeverOverflows (Service.reporting event x) := by
  intro σ h s s' hrun
  change Program.run h ((ExceptT.run x).andThen _) s = _ at hrun
  rw [Program.run_andThen] at hrun
  rcases hfirst : Program.run h (ExceptT.run x) s with ⟨r, between⟩
  rw [hfirst] at hrun
  match r with
  | .ok a => cases hrun
  | .error (.error e) => cases hrun
  | .error .sumOverflow => exact hx σ h s between hfirst

end NeverOverflows

section Steps

variable {σ α β : Type} {h : Handler σ} {s s' : σ}

/-- After a step that never overflows, and leaves the surroundings in a state that is known, it is
the rest that overflows. -/
theorem run_step_overflows_iff {x : Service α} {f : α → Service β} {between : σ} {P : α → Prop}
    (hsafe : NeverOverflows x) (hx : ∀ {a s'}, x.run h s = (.ok a, s') ↔ P a ∧ s' = between) :
    (x >>= f).run h s = (.error .sumOverflow, s') ↔
      ∃ a, P a ∧ (f a).run h between = (.error .sumOverflow, s') := by
  constructor
  · intro hrun
    rcases run_bind_error hrun with hfirst | ⟨a, _, hok, hrest⟩
    · exact absurd hfirst (hsafe σ h s s')
    · obtain ⟨ha, rfl⟩ := hx.1 hok
      exact ⟨a, ha, hrest⟩
  · rintro ⟨a, ha, hrest⟩
    rw [run_bind, hx.2 ⟨ha, rfl⟩]
    exact hrest

/-- Before a rest that never overflows, it is the first step that does. -/
theorem run_bind_overflows_iff {x : Service α} {f : α → Service β}
    (hsafe : ∀ a, NeverOverflows (f a)) :
    (x >>= f).run h s = (.error .sumOverflow, s') ↔ x.run h s = (.error .sumOverflow, s') := by
  constructor
  · intro hrun
    rcases run_bind_error hrun with hfirst | ⟨a, between, -, hrest⟩
    · exact hfirst
    · exact absurd hrest (hsafe a σ h between s')
  · intro hfirst
    rw [run_bind, hfirst]

end Steps

/-! ### What never overflows -/

/-- The user of a name is looked up. -/
theorem requireUser_neverOverflows (username : String) : NeverOverflows (requireUser username) := by
  refine .bind (.ask _) fun answer => .bind (.ofAnswer _ answer) fun user => ?_
  cases user with
  | none => exact .refuse _
  | some user => exact .pure user

/-- The asset of a symbol is looked up. -/
theorem requireAsset_neverOverflows (assetId : AssetId) :
    NeverOverflows (requireAsset assetId) := by
  refine .bind (.ask _) fun answer => .bind (.ofAnswer _ answer) fun asset => ?_
  cases asset with
  | none => exact .refuse _
  | some asset => exact .pure asset

/-- The stored order of an order ID is looked up. -/
theorem requireOrder_neverOverflows (key : OrderId) : NeverOverflows (requireOrder key) := by
  refine .bind (.ask _) fun answer => .bind (.ofAnswer _ answer) fun order => ?_
  cases order with
  | none => exact .refuse _
  | some order => exact .pure order

/-- An order of which the user may know is looked up. -/
theorem ownedOrder_neverOverflows (username orderId : String) :
    NeverOverflows (ownedOrder username orderId) := by
  refine .bind (.ofExcept _ _) fun key => ?_
  refine .bind (requireUser_neverOverflows username) fun actor => ?_
  refine .bind (requireOrder_neverOverflows key) fun order => ?_
  exact .bind (.ofExcept _ _) fun _ => .pure order

/-- The price of an order is its limit price or comes from the asset. -/
theorem effectivePrice_neverOverflows (request : OrderRequest) :
    NeverOverflows (effectivePrice request) := by
  unfold effectivePrice
  cases request.orderPrice with
  | none => exact .bind (requireAsset_neverOverflows _) fun asset => .guarded _ (.pure _)
  | some price => exact .pure price

/-- A new order is checked against its user, its asset and a balance. -/
theorem checkPlacement_neverOverflows (username : Username) (assetId : AssetId)
    (orderType : OrderType) (quantity price : Decimal) :
    NeverOverflows (checkPlacement username assetId orderType quantity price) := by
  refine .bind (requireUser_neverOverflows _) fun user => .guarded _ ?_
  refine .bind (requireAsset_neverOverflows _) fun asset => .guarded _ ?_
  refine .bind (.ofExcept _ _) fun value => .bind (.ofExcept _ _) fun _ => ?_
  refine .bind (.ask _) fun answer => .bind (.ofAnswer _ answer) fun balance => ?_
  exact .guarded _ (.pure _)

/-- An order is cancelled. -/
theorem cancel_neverOverflows (username orderId : String) :
    NeverOverflows (cancel username orderId) := by
  have hcheck : NeverOverflows (checkCancellation username orderId) :=
    .bind (ownedOrder_neverOverflows _ _) fun order => .bind (.ofExcept _ _) fun _ => .pure order
  refine .bind hcheck fun order => .bind (.ask _) fun now => ?_
  refine .bind (.ofAnswer _ _) fun changed => .bind (.ask _) fun saved => ?_
  exact .bind (.ofAnswer _ saved) fun _ => .bind (.ask _) fun _ => .pure _

/-- The status of an order is changed. -/
theorem updateStatus_neverOverflows (orderId : String) (target : Status) (actor : Actor) :
    NeverOverflows (updateStatus orderId target actor) := by
  have horder : NeverOverflows (orderFor actor orderId) := by
    cases actor with
    | user username => exact ownedOrder_neverOverflows username orderId
    | system => exact .bind (.ofExcept _ _) fun key => requireOrder_neverOverflows key
  refine .bind horder fun order => .bind (.ask _) fun now => ?_
  cases moved actor order target now with
  | error e => exact .bind (.ask _) fun _ => .refuse _
  | ok changed =>
    refine .bind (.ask _) fun saved => ?_
    exact .bind (.ofAnswer _ saved) fun _ => .bind (.ask _) fun _ => .pure _

/-- Orders are listed. -/
theorem orders_neverOverflows (defaultLimit : Nat) (query : ListingQuery) :
    NeverOverflows (orders defaultLimit query) := by
  have hcheck : NeverOverflows (checkListing query.username query.limit) := by
    unfold checkListing
    exact .guarded _ (requireUser_neverOverflows _)
  refine .bind hcheck fun user => .bind (.ask _) fun answer => ?_
  exact .bind (.ofAnswer _ answer) fun found => .bind (.ask _) fun _ => .pure _

/-! ### What overflows -/

section Desk

variable {moments : Nat → Moment} {d : Desk} {n : Nat} {s' : Desk × Nat}

/-- A commit that has the lock overflows exactly if the money of the order does. The order is not
looked at before. -/
theorem run_commit_overflows_iff (hfree : (moments n).stalled = none) {order : Order} :
    (commit order).run (Desk.answerAt moments) (d, n) = (.error .sumOverflow, s') ↔
      Desk.charge order.side (d.balanceOf order.username (moments n).now) order.totalAmount
        (moments n).now = .error .sumOverflow ∧ s' = (d, n + 1) := by
  obtain ⟨d', k⟩ := s'
  have hcommit : (commit order).run (Desk.answerAt moments) (d, n) = (.error .sumOverflow, d', k) ↔
      d.commit (moments n) order.side order = (.error .sumOverflow, d') ∧ k = n + 1 := by
    rw [run_commit]
    match d.commit (moments n) order.side order with
    | (.ok settled, after) => simp
    | (.error (.error e), after) =>
      have hfails : NeverOverflows (log (.transactionFailed order.orderId e) >>= fun _ =>
          (fail (.transaction e) : Service Settlement)) :=
        .bind (.ask _) fun _ => .fail _
      exact ⟨fun hrun => absurd hrun (hfails _ _ _ _), fun h => by cases h.1⟩
    | (.error .sumOverflow, after) => simp [eq_comm]
  rw [hcommit, Desk.commit_overflows_iff hfree, Prod.mk.injEq, and_assoc]

/-- Placing an order on its own overflows exactly if the fields are correct, there is a price, the
desk admits the order and no rule is broken, but the money of the order overflows. -/
theorem run_place_overflows_iff (hfree : ∀ n, (moments n).stalled = none) {form : OrderForm} :
    let k := if form.orderPrice.isSome then 4 else 5
    (place form).run (Desk.answerAt moments) (d, 0) = (.error .sumOverflow, s') ↔
      form.IsCorrect (moments 0).now ∧
      ∃ price user asset value order,
        d.price? form.request = some price ∧
        Rules.notional form.quantity price = .ok value ∧
        d.Admits form.request user asset value ∧
        Order.place form.request price (moments 0).now (moments k).now (moments (k + 1)).token =
          .ok order ∧
        Desk.charge order.side (d.balanceOf order.username (moments (k + 2)).now) order.totalAmount
          (moments (k + 2)).now = .error .sumOverflow ∧
        s' = (d, k + 3) := by
  intro k
  have hk : (if form.orderPrice.isSome then 0 + 1 else 0 + 1 + 1) + 3 = k := by
    simp only [k]
    split <;> rfl
  have hprice : form.request.orderPrice = form.orderPrice := rfl
  have hclock : NeverOverflows clock := .ask _
  have htoken : NeverOverflows token := .ask _
  have hcheck (event : ServiceError → Event) (request : OrderRequest) (price : Decimal) :
      NeverOverflows (reporting event (checkPlacement request.username request.assetId
        request.orderType request.quantity price)) :=
    .reporting _ (checkPlacement_neverOverflows _ _ _ _ _)
  have hreport (settlement : Settlement) :
      NeverOverflows (log (.orderCreated settlement.order settlement.balance) >>= fun _ =>
        pure settlement.order.view) :=
    .bind (.ask _) fun _ => .pure _
  unfold place field
  simp only [run_step_overflows_iff hclock run_clock_ok_iff,
    run_step_overflows_iff (.ofExcept _ _) run_ofExcept_ok_iff, OrderForm.check_eq_ok_iff,
    run_step_overflows_iff (effectivePrice_neverOverflows _) run_effectivePrice_ok_iff,
    run_step_overflows_iff (hcheck _ _ _)
      (run_reporting_ok_iff.trans (run_checkPlacement_ok_iff hfree)),
    run_step_overflows_iff htoken run_token_ok_iff,
    run_step_overflows_iff (.ofAnswer _ _) run_ofAnswer_ok_iff,
    run_bind_overflows_iff hreport, run_commit_overflows_iff (hfree _)]
  constructor
  · rintro ⟨_, rfl, _, ⟨hcorrect, rfl⟩, price, hfound, _,
      ⟨user, asset, value, hvalue, hadmits, rfl⟩, _, rfl, _, rfl, order, hplace, hcharge, rfl⟩
    rw [hprice, hk] at hplace hcharge ⊢
    exact ⟨hcorrect, price, user, asset, value, order, hfound, hvalue, hadmits, hplace, hcharge,
      rfl⟩
  · rintro ⟨hcorrect, price, user, asset, value, order, hfound, hvalue, hadmits, hplace, hcharge,
      rfl⟩
    rw [← hk, ← hprice] at hplace hcharge ⊢
    exact ⟨_, rfl, _, ⟨hcorrect, rfl⟩, price, hfound, _, ⟨user, asset, value, hvalue, hadmits, rfl⟩,
      _, rfl, _, rfl, order, hplace, hcharge, rfl⟩

end Desk

end Service

/-! ## The condition -/

namespace OrderForm

variable {form : OrderForm} {d : Desk} {now : Instant}

/-- A form **overflows**: it sells, it would be acceptable if its user had no money, and the money
that there is comes within half a unit of `2 ^ 96` when the value of the order is added. -/
def Overflows (form : OrderForm) (d : Desk) (now : Instant) : Prop :=
  form.orderType.side = .sell ∧
    ∃ user asset value, form.Acceptable { d with balances := .empty } now user asset value ∧
      2 ^ 96 - 1 / 2 ≤
        (d.balanceOf ⟨Text.trim form.username⟩ now).current.value + value.value

/-- What the desk admits of an order that sells does not depend on money. -/
theorem admits_of_sell {e : Desk} {user : User} {asset : Asset} {value : Decimal}
    (h : d.Admits form.request user asset value) (hsell : form.orderType.side = .sell)
    (husers : e.users = d.users) (hassets : e.assets = d.assets) :
    e.Admits form.request user asset value := by
  have hbuy : ¬form.request.orderType.isBuy = true := by
    simp [OrderType.isBuy, request, hsell]
  exact
    { findUser := husers ▸ h.findUser
      userActive := h.userActive
      findAsset := hassets ▸ h.findAsset
      assetActive := h.assetActive
      worth := fun h => absurd h hbuy
      covered := fun h => absurd h hbuy }

/-- The layers in front of the commit and a commit that overflows come to one condition.

**Proof sketch.** An amount that overflows is not negative and is added. Added to nothing it is in
range, so on a desk without balances the form passes all of its layers. -/
theorem overflows_of_layers {price value : Decimal} {user : User} {asset : Asset} {t : Instant}
    (hcorrect : form.IsCorrect now) (hprice : d.price? form.request = some price)
    (hvalue : Rules.notional form.quantity price = .ok value)
    (hadmits : d.Admits form.request user asset value)
    (hrules : Rules.violations form.orderType form.quantity form.orderPrice form.expiresAt now = [])
    (hcharge : Desk.charge form.orderType.side (d.balanceOf ⟨Text.trim form.username⟩ t) value t =
      .error .sumOverflow) : form.Overflows d now := by
  obtain ⟨hsign, hsell, hlarge⟩ := Desk.charge_overflows_iff.1 hcharge
  let broke : Desk := { d with balances := .empty }
  have hcredit : ∃ after, Desk.charge form.orderType.side
      (broke.balanceOf ⟨Text.trim form.username⟩ t) value t = .ok after := by
    refine (Desk.exists_charge_iff hsign).2 ⟨fun hbuy => ?_, fun _ => rfl⟩
    cases hbuy.symm.trans hsell
  obtain ⟨after, hafter⟩ := hcredit
  have hprice' : broke.price? form.request = some price := hprice
  refine ⟨hsell, user, asset, value, acceptable_of_layers hcorrect hprice' hvalue
    (admits_of_sell hadmits hsell rfl rfl) hrules hafter, ?_⟩
  rw [Desk.current_balanceOf] at hlarge ⊢
  exact hlarge

/-- **When placing overflows.** Placed on its own, while nobody else has the balance lock, a form
ends without a reply exactly if it overflows. -/
theorem exists_run_overflows_iff {moments : Nat → Moment}
    (hfree : ∀ n, (moments n).stalled = none) :
    (∃ s', (Service.place form).run (Desk.answerAt moments) (d, 0) = (.error .sumOverflow, s')) ↔
      form.Overflows d (moments 0).now := by
  simp only [Service.run_place_overflows_iff hfree]
  constructor
  · rintro ⟨s', hcorrect, price, user, asset, value, order, hprice, hvalue, hadmits, hplace,
      hcharge, -⟩
    obtain ⟨hside, howner, hamount⟩ := money_of_place hplace hvalue
    rw [hside, howner, hamount] at hcharge
    have hrules := Order.violations_of_place hplace
    exact overflows_of_layers hcorrect hprice hvalue hadmits hrules hcharge
  · rintro ⟨hsell, user, asset, value, haccept, hlarge⟩
    obtain ⟨hcorrect, hprice, hvalue, hadmits, hrules, -⟩ := haccept.layers
    let k := if form.orderPrice.isSome then 4 else 5
    have hplaces : ∃ order, Order.place form.request (form.orderPrice.getD asset.price)
        (moments 0).now (moments k).now (moments (k + 1)).token = .ok order :=
      Order.exists_place hrules hvalue
    obtain ⟨order, hplace⟩ := hplaces
    obtain ⟨hside, howner, hamount⟩ := money_of_place hplace hvalue
    refine ⟨_, hcorrect, _, user, asset, value, order, hprice, hvalue,
      admits_of_sell hadmits hsell rfl rfl, hplace, ?_, rfl⟩
    rw [hside, howner, hamount]
    refine Desk.charge_overflows_iff.2 ⟨haccept.isNegative_eq, hsell, ?_⟩
    rw [Desk.current_balanceOf] at hlarge ⊢
    exact hlarge

end OrderForm

/-! ## Calls -/

namespace Call

/-- The reply is lost to a sum that is out of range exactly if the service overflows. -/
theorem reply_eq_overflow_iff {defaultLimit : Nat} {moments : Nat → Moment} {d : Desk}
    {call : Call} :
    call.reply defaultLimit moments d = .error .sumOverflow ↔
      ∃ s', (call.service defaultLimit).run (Desk.answerAt moments) (d, 0) =
        (.error .sumOverflow, s') :=
  ⟨fun h => ⟨_, Prod.ext h rfl⟩, fun ⟨_, h⟩ => congrArg Prod.fst h⟩

/-- **When a call ends without a reply.** On its own, while nobody else has the balance lock, a call
is lost to a sum that is out of range exactly if it places an order that overflows. An order that
buys never is, whatever it costs, and neither is any other call. -/
theorem reply_overflows_iff (defaultLimit : Nat) (moments : Nat → Moment) (d : Desk) (call : Call)
    (hfree : ∀ n, (moments n).stalled = none) :
    call.reply defaultLimit moments d = .error .sumOverflow ↔
      ∃ form, call = .place form ∧ form.Overflows d (moments 0).now := by
  rw [reply_eq_overflow_iff]
  have hnever {x : Service Receipt} (hx : Service.NeverOverflows x)
      (hcall : ∀ form, call ≠ .place form) :
      (∃ s', x.run (Desk.answerAt moments) (d, 0) = (.error .sumOverflow, s')) ↔
        ∃ form, call = .place form ∧ form.Overflows d (moments 0).now := by
    constructor
    · rintro ⟨s', hrun⟩
      exact absurd hrun (hx _ _ _ _)
    · rintro ⟨form, hplace, -⟩
      exact absurd hplace (hcall form)
  cases call with
  | place form =>
    have hview (view : OrderView) : Service.NeverOverflows (pure (Receipt.order view)) := .pure _
    simp only [service, Service.run_bind_overflows_iff hview, Call.place.injEq]
    rw [OrderForm.exists_run_overflows_iff hfree]
    constructor
    · exact fun h => ⟨form, rfl, h⟩
    · rintro ⟨_, rfl, h⟩
      exact h
  | cancel username orderId =>
    exact hnever (.bind (Service.cancel_neverOverflows _ _) fun _ => .pure _) fun _ => by simp
  | update orderId target actor =>
    refine hnever (.bind ?_ fun _ => .pure _) fun _ => by simp
    exact Service.updateStatus_neverOverflows orderId target actor
  | order username orderId =>
    refine hnever (.bind ?_ fun _ => .pure _) fun _ => by simp
    exact .bind (Service.ownedOrder_neverOverflows _ _) fun _ => .pure _
  | orders query =>
    exact hnever (.bind (Service.orders_neverOverflows _ _) fun _ => .pure _) fun _ => by simp

/-- A user with the largest possible balance sells one more, and the call ends without a reply. -/
theorem overflow_of_full_balance :
    let d := Desk.small.putBalance
      { username := ⟨"alice"⟩, current := 79228162514264337593543950335,
        updatedAt := .ofSeconds 1700000000 }
    let form : OrderForm :=
      { username := "alice", orderType := .marketSell, assetId := "BTC", quantity := 1,
        orderPrice := none, expiresAt := none }
    (place form).reply 50 (fun n => .small n) d = .error .sumOverflow ∧
      form.Overflows d (.ofSeconds 1700000000) := by
  intro d form
  have hreply : (place form).reply 50 (fun n => .small n) d = .error .sumOverflow := by
    decide +kernel
  obtain ⟨sold, hform, hoverflows⟩ :=
    (reply_overflows_iff 50 (fun n => .small n) d (.place form) fun _ => rfl).1 hreply
  cases hform
  exact ⟨hreply, hoverflows⟩

end Call

end OrderDesk
