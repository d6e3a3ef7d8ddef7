import OrderDesk.Proofs.Alone

/-!
# When an order is placed

A form passes through checks of its fields, a look at the market price, checks against the stores,
the rules on orders and the commit. Some of them ask the same thing twice, and some ask different
things of the same field. Together they come to one condition on the form, the desk and the time.

## Main definitions

* `OrderDesk.OrderForm.Acceptable` — the condition under which an order is placed.
* `OrderDesk.OrderForm.drawnId`, `OrderDesk.OrderForm.record` — the order ID that is drawn, and what
  is stored.

## Main results

* `OrderDesk.Service.run_place_ok_iff` — placing an order, layer by layer.
* `OrderDesk.OrderForm.place_iff_acceptable` — an order is placed exactly under the condition.
-/

set_option autoImplicit false

namespace OrderDesk

/-! ## The layers -/

/-- A price that is found is the limit price, or the market price, which is positive. -/
theorem Desk.price?_eq_some_iff {d : Desk} {request : OrderRequest} {asset : Asset}
    (hasset : d.assets.get? request.assetId = some asset) {price : Decimal} :
    d.price? request = some price ↔
      price = request.orderPrice.getD asset.price ∧
        (request.orderPrice = none → 0 < asset.price.value) := by
  unfold price?
  cases request.orderPrice with
  | some p => simp [eq_comm]
  | none =>
    have hzero : asset.price ≤ Decimal.zero ↔ ¬0 < asset.price.value := by
      rw [Field.le_zero_iff, not_lt]
    by_cases hprice : asset.price ≤ Decimal.zero
    · simp [hasset, hprice, hzero.1 hprice]
    · simp [hasset, hprice, not_not.1 (mt hzero.2 hprice), eq_comm]

/-- Placing an order on its own, layer by layer: the fields are correct, there is a price, the desk
admits the order, no rule is broken, the money can be moved and the order ID is not taken. -/
theorem Service.run_place_ok_iff {moments : Nat → Moment} (hfree : ∀ n, (moments n).stalled = none)
    {d : Desk} {form : OrderForm} {view : OrderView} {s' : Desk × Nat} :
    let k := if form.orderPrice.isSome then 4 else 5
    (place form).run (Desk.answerAt moments) (d, 0) = (.ok view, s') ↔
      form.IsCorrect (moments 0).now ∧
      ∃ price user asset value order balance,
        d.price? form.request = some price ∧
        Rules.notional form.quantity price = .ok value ∧
        d.Admits form.request user asset value ∧
        Order.place form.request price (moments 0).now (moments k).now (moments (k + 1)).token =
          .ok order ∧
        Desk.charge order.side (d.balanceOf order.username (moments (k + 2)).now) order.totalAmount
          (moments (k + 2)).now = .ok balance ∧
        d.orders.get? order.orderId = none ∧ view = order.view ∧
        s' = ((d.putOrder order).putBalance balance, k + 5) := by
  intro k
  have hk : (if form.orderPrice.isSome then 0 + 1 else 0 + 1 + 1) + 3 = k := by
    simp only [k]
    split <;> rfl
  have hprice : form.request.orderPrice = form.orderPrice := rfl
  unfold place field
  simp only [run_step_ok_iff run_clock_ok_iff, run_step_ok_iff run_ofExcept_ok_iff,
    OrderForm.check_eq_ok_iff, run_step_ok_iff run_effectivePrice_ok_iff,
    run_step_ok_iff (run_reporting_ok_iff.trans (run_checkPlacement_ok_iff hfree)),
    run_step_ok_iff run_token_ok_iff, run_step_ok_iff run_ofAnswer_ok_iff,
    run_settled_ok_iff (hfree _)]
  constructor
  · rintro ⟨_, rfl, _, ⟨hcorrect, rfl⟩, price, hfound, _,
      ⟨user, asset, value, hvalue, hadmits, rfl⟩,
      _, rfl, _, rfl, order, hplace, balance, hcharge, hnew, rfl, rfl⟩
    rw [hprice, hk] at hplace hcharge ⊢
    exact ⟨hcorrect, price, user, asset, value, order, balance, hfound, hvalue, hadmits, hplace,
      hcharge, hnew, rfl, rfl⟩
  · rintro ⟨hcorrect, price, user, asset, value, order, balance, hfound, hvalue, hadmits, hplace,
      hcharge, hnew, rfl, rfl⟩
    rw [← hk, ← hprice] at hplace hcharge ⊢
    exact ⟨_, rfl, _, ⟨hcorrect, rfl⟩, price, hfound, _, ⟨user, asset, value, hvalue, hadmits, rfl⟩,
      _, rfl, _, rfl, order, hplace, balance, hcharge, hnew, rfl, rfl⟩

/-! ## One condition -/

/-- An amount without a minus sign is charged exactly if it is covered when it is debited, and if
the sum is in range when it is credited. -/
theorem Desk.exists_charge_iff {side : Side} {before : Balance} {amount : Decimal} {now : Instant}
    (hsign : amount.isNegative = false) :
    (∃ after, charge side before amount now = .ok after) ↔
      (side = .buy → amount ≤ before.current) ∧
        (side = .sell → (before.current.sum? amount).isSome = true) := by
  simp only [charge_eq_ok_iff, hsign, true_and]
  cases side with
  | buy =>
    constructor
    · rintro ⟨_, hcovers, -⟩
      exact ⟨hcovers, nofun⟩
    · rintro ⟨hcovers, -⟩
      obtain ⟨left, hleft⟩ := Decimal.exists_difference? (Decimal.nonneg_of_isNegative hsign)
        (hcovers rfl)
      exact ⟨_, hcovers, left, hleft, rfl⟩
  | sell =>
    constructor
    · rintro ⟨_, -, total, htotal, -⟩
      exact ⟨nofun, fun _ => Option.isSome_of_mem htotal⟩
    · rintro ⟨-, hsum⟩
      obtain ⟨total, htotal⟩ := Option.isSome_iff_exists.1 (hsum rfl)
      exact ⟨_, nofun, total, htotal, rfl⟩

namespace OrderForm

/-- A form is **acceptable** at a time: everything that is asked of it anywhere, said once. The user
and the asset are those that it names, and the value is what the order costs or brings in. -/
structure Acceptable (form : OrderForm) (d : Desk) (now : Instant) (user : User) (asset : Asset)
    (value : Decimal) : Prop where
  username : Text.IsUsername (Text.trim form.username)
  findUser : d.users.get? ⟨Text.trim form.username⟩ = some user
  userActive : user.isActive = true
  assetId : Text.IsSymbol (Text.trim form.assetId)
  findAsset : d.assets.get? ⟨Text.uppercase (Text.trim form.assetId)⟩ = some asset
  assetActive : asset.isActive = true
  quantity : form.quantity.IsQuantity
  /-- A limit order has a price and a market order has none. -/
  priced : form.orderPrice.isSome = form.orderType.isLimit
  price : ∀ price, form.orderPrice = some price → price.IsPrice
  marketPrice : form.orderType.isMarket = true → 0 < asset.price.value
  /-- A limit order has an expiration time. -/
  expires : form.orderType.isLimit = true → form.expiresAt.isSome = true
  expiresAt : ∀ t, form.expiresAt = some t → t.ExpiresWithin 30 now
  product : form.quantity.product? (form.orderPrice.getD asset.price) = some value
  buys : form.orderType.side = .buy →
    1 ≤ value.value ∧ value ≤ (d.balanceOf ⟨Text.trim form.username⟩ now).current
  sells : form.orderType.side = .sell →
    ((d.balanceOf ⟨Text.trim form.username⟩ now).current.sum? value).isSome = true

/-- The order ID that is drawn for a form that is placed on its own. Before it the clock, the user,
the asset and the balance have been asked for, and the asset once more for a market price. -/
def drawnId (form : OrderForm) (moments : Nat → Moment) : OrderId :=
  let k := if form.orderType.isLimit then 4 else 5
  .standard (moments k).now (moments (k + 1)).token (some (Text.trim form.username))

/-- What is stored of the order of a form. -/
def record (form : OrderForm) (orderId : OrderId) (value : Decimal) (now : Instant) : OrderRecord :=
  { orderId
    username := ⟨Text.trim form.username⟩
    orderType := form.orderType
    assetId := ⟨Text.uppercase (Text.trim form.assetId)⟩
    quantity := form.quantity
    orderPrice := form.orderPrice
    totalAmount := value
    status := .pending
    expiresAt := form.expiresAt
    createdAt := now
    updatedAt := now }

variable {form : OrderForm} {d : Desk} {now idTime : Instant} {token : Uuid} {user : User}
  {asset : Asset} {value price : Decimal}

/-- The order that is made for the request of a form is the order of the form. -/
theorem toOrderRecord_of_place {order : Order}
    (hplace : Order.place form.request price now idTime token = .ok order)
    (hvalue : Rules.notional form.quantity price = .ok value) :
    order.toOrderRecord =
      form.record (.standard idTime token (some (Text.trim form.username))) value now := by
  have hnew := Order.isNew_of_place hplace
  have htotal : order.totalAmount = value :=
    Except.ok.inj (hnew.totalAmount.symm.trans hvalue)
  obtain ⟨record, _⟩ := order
  cases record
  simp only [record, OrderRecord.mk.injEq]
  exact ⟨hnew.orderId, hnew.username, hnew.orderType, hnew.assetId, hnew.quantity, hnew.orderPrice,
    htotal, hnew.status, hnew.expiresAt, hnew.createdAt, hnew.updatedAt⟩

/-- The money of the order is that of the form: it is charged to whom the form names. -/
theorem money_of_place {order : Order}
    (hplace : Order.place form.request price now idTime token = .ok order)
    (hvalue : Rules.notional form.quantity price = .ok value) :
    order.side = form.orderType.side ∧ order.username = ⟨Text.trim form.username⟩ ∧
      order.totalAmount = value := by
  unfold Order.side
  rw [toOrderRecord_of_place hplace hvalue]
  exact ⟨rfl, rfl, rfl⟩

/-- A market order is no limit order. -/
theorem isMarket_eq (orderType : OrderType) : orderType.isMarket = !orderType.isLimit := by
  cases orderType <;> rfl

/-- An acceptable form is valued by a price that is not negative. -/
theorem Acceptable.price_nonneg (h : form.Acceptable d now user asset value) :
    0 ≤ (form.orderPrice.getD asset.price).coefficient := by
  cases hprice : form.orderPrice with
  | some price => exact Decimal.value_nonneg.1 (h.price price hprice).range.1.le
  | none =>
    have hmarket : form.orderType.isMarket = true := by
      rw [isMarket_eq, ← h.priced, hprice]
      rfl
    exact Decimal.value_nonneg.1 (h.marketPrice hmarket).le

/-- The value of an acceptable form has no minus sign. -/
theorem Acceptable.isNegative_eq (h : form.Acceptable d now user asset value) :
    value.isNegative = false :=
  Decimal.isNegative_of_product? h.quantity.nonneg h.price_nonneg h.product

/-- An acceptable form passes every layer. -/
theorem Acceptable.layers (h : form.Acceptable d now user asset value) :
    form.IsCorrect now ∧ d.price? form.request = some (form.orderPrice.getD asset.price) ∧
      Rules.notional form.quantity (form.orderPrice.getD asset.price) = .ok value ∧
      d.Admits form.request user asset value ∧
      Rules.violations form.orderType form.quantity form.orderPrice form.expiresAt now = [] ∧
      ∀ t, ∃ balance, Desk.charge form.orderType.side
        (d.balanceOf ⟨Text.trim form.username⟩ t) value t = .ok balance := by
  have hcurrent : ∀ t, (d.balanceOf ⟨Text.trim form.username⟩ t).current =
      (d.balanceOf ⟨Text.trim form.username⟩ now).current := by
    intro t
    rw [Desk.current_balanceOf, Desk.current_balanceOf]
  have hside : form.orderType.isBuy = true → form.orderType.side = .buy := by
    simp [OrderType.isBuy]
  have hasset : d.assets.get? form.request.assetId = some asset := h.findAsset
  refine ⟨⟨h.username, h.assetId, h.quantity, h.priced, h.price, h.expires, fun t ht =>
    (h.expiresAt t ht).mono (by decide)⟩, ?_, Rules.notional_eq_ok_iff.2 h.product, ?_, ?_, ?_⟩
  · refine (Desk.price?_eq_some_iff hasset).2 ⟨rfl, fun hnone => h.marketPrice ?_⟩
    rw [isMarket_eq, ← h.priced, show form.orderPrice = none from hnone]
    rfl
  · exact
      { findUser := h.findUser
        userActive := h.userActive
        findAsset := h.findAsset
        assetActive := h.assetActive
        worth := fun hbuy => (h.buys (hside hbuy)).1
        covered := fun hbuy => by
          rw [← d.current_balanceOf _ now]
          exact (h.buys (hside hbuy)).2 }
  · exact Rules.violations_eq_nil_iff.2
      ⟨h.quantity, fun p hp => (h.price p hp).places, h.priced, h.expiresAt⟩
  · intro t
    rw [Desk.exists_charge_iff h.isNegative_eq, hcurrent]
    exact ⟨fun hbuy => (h.buys hbuy).2, h.sells⟩

/-- The layers come to one condition.

**Proof sketch.** The fields ask for more than the rules do, but for the expiration time, where the
rules are stricter. The look at the balance asks for what the commit asks for when it debits, and
the value of an order is never negative. -/
theorem acceptable_of_layers (hcorrect : form.IsCorrect now)
    (hprice : d.price? form.request = some price)
    (hvalue : Rules.notional form.quantity price = .ok value)
    (hadmits : d.Admits form.request user asset value)
    (hrules : Rules.violations form.orderType form.quantity form.orderPrice form.expiresAt now = [])
    {t : Instant} {balance : Balance}
    (hcharge : Desk.charge form.orderType.side (d.balanceOf ⟨Text.trim form.username⟩ t) value t =
      .ok balance) : form.Acceptable d now user asset value := by
  obtain ⟨rfl, hmarket⟩ := (Desk.price?_eq_some_iff hadmits.findAsset).1 hprice
  obtain ⟨-, -, -, hexpires⟩ := Rules.violations_eq_nil_iff.1 hrules
  obtain ⟨-, hcovers, left, hleft, -⟩ := Desk.charge_eq_ok_iff.1 hcharge
  have hcurrent : (d.balanceOf ⟨Text.trim form.username⟩ t).current =
      (d.balanceOf ⟨Text.trim form.username⟩ now).current := by
    rw [Desk.current_balanceOf, Desk.current_balanceOf]
  rw [hcurrent] at hcovers hleft
  exact
    { username := hcorrect.username
      findUser := hadmits.findUser
      userActive := hadmits.userActive
      assetId := hcorrect.assetId
      findAsset := hadmits.findAsset
      assetActive := hadmits.assetActive
      quantity := hcorrect.quantity
      priced := hcorrect.priced
      price := hcorrect.price
      marketPrice := by
        intro h
        rw [isMarket_eq, ← hcorrect.priced] at h
        exact hmarket (by simpa [request] using h)
      expires := hcorrect.expires
      expiresAt := hexpires
      product := Rules.notional_eq_ok_iff.1 hvalue
      buys := fun hside =>
        ⟨hadmits.worth (by simp [OrderType.isBuy, request, hside]), hcovers hside⟩
      sells := by
        intro hside
        rw [hside] at hleft
        exact Option.isSome_of_mem hleft }

/-! ## Placing -/

/-- A form that is placed on its own succeeds with a receipt about the order that is stored. -/
theorem run_program_ok_iff (defaultLimit : Nat) {moments : Nat → Moment} {receipt : Receipt}
    {s' : Desk × Nat} :
    ((Call.place form).program defaultLimit).run (Desk.answerAt moments) (d, 0) =
        (.ok receipt, s') ↔
      ∃ view, (Service.place form).run (Desk.answerAt moments) (d, 0) = (.ok view, s') ∧
        receipt = .order view := by
  change (Service.place form >>= fun view => pure (Receipt.order view)).run
    (Desk.answerAt moments) (d, 0) = _ ↔ _
  rw [Service.run_bind_ok_iff]
  simp only [Service.run_pure_ok_iff]
  constructor
  · rintro ⟨view, _, hrun, rfl, rfl⟩
    exact ⟨view, hrun, rfl⟩
  · rintro ⟨view, hrun, rfl⟩
    exact ⟨view, s', hrun, rfl, rfl⟩

/-- The place in the row of requests at which the order ID of a form is drawn. -/
theorem drawnId_eq {moments : Nat → Moment} (h : form.orderPrice.isSome = form.orderType.isLimit) :
    let k := if form.orderPrice.isSome then 4 else 5
    OrderId.standard (moments k).now (moments (k + 1)).token (some (Text.trim form.username)) =
      form.drawnId moments := by
  simp only [drawnId, h]

/-- What is left on the desk of a form that is placed. -/
theorem outcome_of_run {moments : Nat → Moment} (hfree : ∀ n, (moments n).stalled = none)
    {view : OrderView} {s' : Desk × Nat}
    (hrun : (Service.place form).run (Desk.answerAt moments) (d, 0) = (.ok view, s')) :
    ∃ user asset value order left t,
      form.Acceptable d (moments 0).now user asset value ∧
      order.toOrderRecord = form.record (form.drawnId moments) value (moments 0).now ∧
      view = order.view ∧
      form.orderType.side.change? (d.balanceOf ⟨Text.trim form.username⟩ t).current value =
        some left ∧
      s'.1 = (d.putOrder order).putBalance
        ((d.balanceOf ⟨Text.trim form.username⟩ t).withCurrent left t) := by
  obtain ⟨hcorrect, price, user, asset, value, order, balance, hprice, hvalue, hadmits, hplace,
    hcharge, -, rfl, rfl⟩ := (Service.run_place_ok_iff hfree).1 hrun
  have hrecord := toOrderRecord_of_place hplace hvalue
  rw [drawnId_eq hcorrect.priced] at hrecord
  obtain ⟨hside, howner, hamount⟩ := money_of_place hplace hvalue
  rw [hside, howner, hamount] at hcharge
  have hrules := Order.violations_of_place hplace
  have haccept := acceptable_of_layers hcorrect hprice hvalue hadmits hrules hcharge
  obtain ⟨-, -, left, hleft, rfl⟩ := Desk.charge_eq_ok_iff.1 hcharge
  exact ⟨user, asset, value, order, left, _, haccept, hrecord, rfl, hleft, rfl⟩

/-- An acceptable form is placed. -/
theorem Acceptable.exists_run {moments : Nat → Moment} (hfree : ∀ n, (moments n).stalled = none)
    (hnew : d.orders.get? (form.drawnId moments) = none)
    (h : form.Acceptable d (moments 0).now user asset value) :
    ∃ view s', (Service.place form).run (Desk.answerAt moments) (d, 0) = (.ok view, s') := by
  obtain ⟨hcorrect, hprice, hvalue, hadmits, hrules, hcharge⟩ := h.layers
  let k := if form.orderPrice.isSome then 4 else 5
  have hplaces : ∃ order, Order.place form.request (form.orderPrice.getD asset.price)
      (moments 0).now (moments k).now (moments (k + 1)).token = .ok order :=
    Order.exists_place hrules hvalue
  obtain ⟨order, hplace⟩ := hplaces
  have hrecord := toOrderRecord_of_place hplace hvalue
  rw [drawnId_eq hcorrect.priced] at hrecord
  obtain ⟨hside, -, -⟩ := money_of_place hplace hvalue
  obtain ⟨balance, hbalance⟩ := hcharge (moments (k + 2)).now
  refine ⟨order.view, _, (Service.run_place_ok_iff hfree).2 ⟨hcorrect, _, user, asset, value, order,
    balance, hprice, hvalue, hadmits, hplace, ?_, ?_, rfl, rfl⟩⟩
  · rw [hside, hrecord]
    exact hbalance
  · rw [hrecord]
    exact hnew

/-- **Exact acceptance.** Placed on its own, while nobody else has the balance lock and the order ID
that is drawn is new, a form leads to an order exactly if it is acceptable. Then the order of the
form is stored in status `PENDING`, its value has moved, nothing else has changed, and the receipt
shows the order. -/
theorem place_iff_acceptable (defaultLimit : Nat) (d : Desk) (form : OrderForm)
    (moments : Nat → Moment) (hfree : ∀ n, (moments n).stalled = none)
    (hnew : d.orders.get? (form.drawnId moments) = none) :
    let served := ((Call.place form).program defaultLimit).run (Desk.answerAt moments) (d, 0)
    let now := (moments 0).now
    let owner : Username := ⟨Text.trim form.username⟩
    ((∃ receipt, served.1 = .ok receipt) ↔
      ∃ user asset value, form.Acceptable d now user asset value) ∧
    ∀ receipt, served.1 = .ok receipt → ∃ user asset value order left t,
      form.Acceptable d now user asset value ∧
      order.toOrderRecord = form.record (form.drawnId moments) value now ∧
      receipt = .order order.view ∧
      form.orderType.side.change? (d.balanceOf owner t).current value = some left ∧
      served.2.1 = (d.putOrder order).putBalance ((d.balanceOf owner t).withCurrent left t) := by
  intro served now owner
  have hserved : ((Call.place form).program defaultLimit).run (Desk.answerAt moments) (d, 0) =
    served := rfl
  clear_value served
  obtain ⟨reply, s'⟩ := served
  have hreply : ∀ receipt, reply = .ok receipt ↔
      ∃ view, (Service.place form).run (Desk.answerAt moments) (d, 0) = (.ok view, s') ∧
        receipt = .order view := by
    intro receipt
    rw [← run_program_ok_iff defaultLimit, hserved, Prod.mk.injEq]
    exact (and_iff_left rfl).symm
  refine ⟨⟨?_, ?_⟩, ?_⟩
  · rintro ⟨receipt, hok⟩
    obtain ⟨view, hrun, -⟩ := (hreply receipt).1 hok
    obtain ⟨user, asset, value, -, -, -, haccept, -⟩ := outcome_of_run hfree hrun
    exact ⟨user, asset, value, haccept⟩
  · rintro ⟨user, asset, value, haccept⟩
    obtain ⟨view, after, hrun⟩ := haccept.exists_run hfree hnew
    have hprogram := (run_program_ok_iff defaultLimit).2 ⟨view, hrun, rfl⟩
    exact ⟨.order view, congrArg Prod.fst (hserved.symm.trans hprogram)⟩
  · intro receipt hok
    obtain ⟨view, hrun, rfl⟩ := (hreply receipt).1 hok
    obtain ⟨user, asset, value, order, left, t, haccept, hrecord, rfl, hleft, hdesk⟩ :=
      outcome_of_run hfree hrun
    exact ⟨user, asset, value, order, left, t, haccept, hrecord, rfl, hleft, hdesk⟩

/-- On the small desk a limit order of the only user is placed, since it is acceptable. -/
theorem acceptable_of_limit_order :
    let form : OrderForm :=
      { username := " alice", orderType := .limitBuy, assetId := "btc\n", quantity := 0.5,
        orderPrice := some 100.50, expiresAt := some (.ofSeconds 1702592000) }
    let moments (n : Nat) : Moment := .small n
    let served := ((Call.place form).program 50).run (Desk.answerAt moments) (Desk.small, 0)
    served.1 = .ok (.order { form.record (form.drawnId moments) 50.250 (.ofSeconds 1700000000) with
        side := .buy }) ∧
      ∃ user asset value, form.Acceptable Desk.small (.ofSeconds 1700000000) user asset value := by
  intro form moments served
  have hreply : served.1 = .ok (.order
      { form.record (form.drawnId moments) 50.250 (.ofSeconds 1700000000) with side := .buy }) := by
    decide +kernel
  exact ⟨hreply, (place_iff_acceptable 50 Desk.small form moments (fun _ => rfl) (by decide)).1.1
    ⟨_, hreply⟩⟩

end OrderForm

end OrderDesk
