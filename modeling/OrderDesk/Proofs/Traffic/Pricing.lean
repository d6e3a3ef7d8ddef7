import OrderDesk.Proofs.Pricing
import OrderDesk.Proofs.Traffic.Asked

/-!
# Values of orders in traffic

Market prices change while orders are placed, so an order is valued at a price that its asset had at
some time of the call. Whatever happens, the value of a limit order is the exact product of quantity
and price, and no stored order that buys is worth less than the least value by more than half a unit
of the last of the 28 places.

## Main definitions

* `OrderDesk.quotes` — the market prices that have been quoted in a run.
* `OrderDesk.Order.HasExactTotal` — the value of an order is an exact product.

## Main results

* `OrderDesk.Traffic.valued_play`, `OrderDesk.Traffic.valued_orders` — what is committed and stored
  in a run is valued at a price that is known.
* `OrderDesk.Traffic.limit_totals_exact` — values of limit orders are exact.
* `OrderDesk.Traffic.least_value` — the least value of orders that buy.
-/

set_option autoImplicit false

namespace OrderDesk

/-! ## Quotes -/

/-- The market prices that have been **quoted** in a run, one after another. -/
def quotes (trace : List Turn) : List (AssetId × Decimal) :=
  trace.filterMap fun turn => turn.request.quote? turn.answer

/-- The quotes that are noted for a call are those of its turns. -/
theorem record_noteQuote (trace : List Turn) (call : Nat) :
    record Request.noteQuote [] trace call = quotes (trace.filter (·.call = call)) :=
  record_notes Request.quote? trace call

/-- The value of the order **is exact**: it is the product of its quantity and its limit price. -/
def Order.HasExactTotal (order : Order) : Prop :=
  ∃ price, order.orderPrice = some price ∧
    order.totalAmount.value = order.quantity.value * price.value

/-- The value of a sound limit order is exact. -/
theorem Order.IsSound.hasExactTotal {order : Order} (h : order.IsSound)
    (hlimit : order.orderType.isLimit = true) : order.HasExactTotal := by
  have hpriced := h.priced
  rw [hlimit] at hpriced
  obtain ⟨price, hprice⟩ := Option.isSome_iff_exists.1 hpriced
  exact ⟨price, hprice, h.value price hprice⟩

namespace Traffic

/-- In every run an order that is to be committed is sound and valued at a price that is known. -/
theorem valued_play (defaultLimit : Nat) (d : Desk) (calls : List Call) (schedule : List Choice)
    {turn : Turn}
    (hturn : turn ∈ ((start d (calls.map (Call.program defaultLimit))).play schedule).trace) :
    turn.request.IsValued
      (quotes ((start d (calls.map (Call.program defaultLimit))).play schedule).trace) := by
  obtain ⟨before, rest, hsplit⟩ := List.append_of_mem hturn
  have hhonored := honored_calls (fun _ => Request.IsValued) Request.noteQuote defaultLimit d calls
    (fun _ call _ => call.keeps_valuing defaultLimit) schedule
  have hvalued := hhonored.asked before turn rest hsplit
  rw [record_noteQuote] at hvalued
  refine hvalued.mono ?_
  rw [hsplit]
  have hown : (before.filter (·.call = turn.call)).Sublist (before ++ turn :: rest) :=
    List.filter_sublist.trans (List.sublist_append_left before _)
  exact (hown.filterMap _).subset

/-- On a desk that starts without orders every stored order is sound and valued at a price that is
known. -/
theorem valued_orders (defaultLimit : Nat) (d : Desk) (hempty : d.orders = .empty)
    (calls : List Call) (schedule : List Choice) {orderId : OrderId} {order : Order}
    (hget : ((start d (calls.map (Call.program defaultLimit))).play
      schedule).desk.orders.get? orderId = some order) :
    order.IsSound ∧ ∃ price, order.IsValuedAt
      (quotes ((start d (calls.map (Call.program defaultLimit))).play schedule).trace) price := by
  refine (forall_orders_play (P := fun order => order.IsSound ∧ ∃ price, order.IsValuedAt _ price)
    ?_ defaultLimit d hempty calls schedule (fun turn hturn side order hasks => ?_) hget).2
  · rintro a b hterms ⟨hsound, price, hvalued⟩
    exact ⟨hsound.of_sameTerms hterms, price, hvalued.of_sameTerms hterms⟩
  · have hvalued := valued_play defaultLimit d calls schedule hturn
    rw [hasks] at hvalued
    exact hvalued.2

/-- Every turn of a run is answered by the settled desk of some earlier time. -/
theorem exists_earlier_of_mem_trace {α : Type} (d : Desk) (calls : List (Program α))
    (schedule : List Choice) {turn : Turn} (hturn : turn ∈ ((start d calls).play schedule).trace) :
    ∃ earlier, earlier <+: schedule ∧ turn.answer =
      (Desk.answer turn.moment turn.request ((start d calls).play earlier).settled).1 := by
  induction schedule using List.reverseRecOn with
  | nil => cases hturn
  | append_singleton schedule c ih =>
    have hlonger (h : turn ∈ ((start d calls).play schedule).trace) :
        ∃ earlier, earlier <+: schedule ++ [c] ∧ turn.answer =
          (Desk.answer turn.moment turn.request ((start d calls).play earlier).settled).1 := by
      obtain ⟨earlier, hprefix, hanswer⟩ := ih h
      exact ⟨earlier, hprefix.trans (List.prefix_append schedule [c]), hanswer⟩
    rw [play_concat] at hturn
    obtain hrests | ⟨last, next, htakes, -⟩ | ⟨_, _, -, -, -, htrace⟩ :=
      step_cases (locked_play d calls schedule) c
    · exact hlonger (hrests.trace ▸ hturn)
    · rw [htakes.trace] at hturn
      rcases List.mem_append.1 hturn with hturn | hlast
      · exact hlonger hturn
      · rw [List.mem_singleton.1 hlast]
        exact ⟨schedule, List.prefix_append schedule [c], htakes.answer⟩
    · exact hlonger (htrace ▸ hturn)

/-! ## Limit orders -/

/-- **Values of limit orders are exact.** A limit order whose fields are accepted has a value, in
however many places its quantity and its price are written, and the value is exactly their product.
So it is for every limit order that is stored in a run on a desk that starts without orders, and
this is the amount that is debited or credited when the order is committed.

**Proof sketch.** Without trailing zeros the product needs no more than ten places and is less than
`2 ^ 96` in these (`Order.exists_notional`), so only zeros are dropped. A call commits only orders
that are sound, and an order that is committed is charged by the settled desk of the time. -/
theorem limit_totals_exact (defaultLimit : Nat) :
    (∀ (form : OrderForm) (now : Instant) (request : OrderRequest),
      form.check now = .ok request → form.orderType.isLimit = true →
      ∃ price value, form.orderPrice = some price ∧ request.orderPrice = some price ∧
        request.quantity = form.quantity ∧ Rules.notional form.quantity price = .ok value ∧
        value.value = form.quantity.value * price.value) ∧
    ∀ (d : Desk) (calls : List Call) (schedule : List Choice), d.orders = .empty →
      let s := start d (calls.map (Call.program defaultLimit))
      (∀ orderId order, (s.play schedule).desk.orders.get? orderId = some order →
        order.orderType.isLimit = true → order.HasExactTotal) ∧
      ∀ turn ∈ (s.play schedule).trace, ∀ side order settlement,
        turn.toExchange = ⟨.commit side order, .ok settlement⟩ → order.orderType.isLimit = true →
        order.HasExactTotal ∧ side = order.side ∧ ∃ earlier, earlier <+: schedule ∧
          Desk.charge side ((s.play earlier).settled.balanceOf order.username turn.moment.now)
            order.totalAmount turn.moment.now = .ok settlement.balance := by
  constructor
  · intro form now request hcheck hlimit
    obtain ⟨hcorrect, rfl⟩ := OrderForm.check_eq_ok_iff.1 hcheck
    have hpriced := hcorrect.priced
    rw [hlimit] at hpriced
    obtain ⟨price, hprice⟩ := Option.isSome_iff_exists.1 hpriced
    obtain ⟨value, hnotional, hexact⟩ :=
      Order.exists_notional hcorrect.quantity (hcorrect.price price hprice)
    exact ⟨price, value, hprice, hprice, rfl, hnotional, hexact⟩
  · intro d calls schedule hempty s
    constructor
    · intro orderId order hget hlimit
      exact (valued_orders defaultLimit d hempty calls schedule hget).1.hasExactTotal hlimit
    · intro turn hturn side order settlement hx hlimit
      have hvalued := valued_play defaultLimit d calls schedule hturn
      obtain ⟨earlier, hprefix, hanswer⟩ := exists_earlier_of_mem_trace d _ schedule hturn
      obtain ⟨⟨request, answer⟩, call, m⟩ := turn
      cases hx
      obtain ⟨hside, hsound, -⟩ := hvalued
      exact ⟨hsound.hasExactTotal hlimit, hside, earlier, hprefix,
        Desk.charge_of_commit hanswer.symm⟩

/-- Alice buys a half at 100.5. She writes both with so many zeros that their digits have 54 places
and do not fit by far. The value is 50.25, and this is what her balance of a thousand is debited. -/
theorem limit_total_of_many_zeros :
    let form : OrderForm :=
      { username := "alice", orderType := .limitBuy, assetId := "BTC",
        quantity := { coefficient := 5 * 10 ^ 27, scale := 28 },
        orderPrice := some { coefficient := 1005 * 10 ^ 25, scale := 26 },
        expiresAt := some (.ofSeconds 1700003600) }
    let calls : List Call := [.place form]
    let schedule := List.replicate 14 (.turn 0 (.small 0))
    let s := start Desk.small (calls.map (Call.program 50))
    (∃ price value, form.orderPrice = some price ∧
      Rules.notional form.quantity price = .ok value ∧
      value.value = form.quantity.value * price.value) ∧
    ∃ orderId order, (s.play schedule).desk.orders.get? orderId = some order ∧
      order.HasExactTotal := by
  intro form calls schedule s
  obtain ⟨hfields, hruns⟩ := limit_totals_exact 50
  constructor
  · have hcheck : form.check (.ofSeconds 1700000000) = .ok form.request := by decide +kernel
    obtain ⟨price, value, hprice, -, -, hnotional, hexact⟩ :=
      hfields form (.ofSeconds 1700000000) form.request hcheck rfl
    exact ⟨price, value, hprice, hnotional, hexact⟩
  · have hstored : ((s.play schedule).desk.orders.get?
        ⟨"ord_20231114_221320_00000000_alice"⟩).map (·.orderType.isLimit) = some true := by
      decide +kernel
    obtain ⟨order, hget, hlimit⟩ := Option.map_eq_some_iff.1 hstored
    have hs : start Desk.small (calls.map (Call.program 50)) = s := rfl
    obtain ⟨hexact, -⟩ := hruns Desk.small calls schedule rfl
    rw [hs] at hexact
    exact ⟨_, order, hget, hexact _ order hget hlimit⟩

/-! ## The least value -/

/-- **The least value of orders that buy.** An order that buys an accepted quantity at a positive
price, with a value in range, is worth enough exactly if the exact product of quantity and price is
at least one, less half a unit of the last of the 28 places; and exactly if it is at least one if
the product needs no rounding. So every order that is stored in a run on a desk that starts without
orders, and buys, has been valued at its limit price or at a market price that has been quoted for
its asset, and its quantity is worth that much at this price; a limit order is worth one.

**Proof sketch.** The product is compared after it has been rounded, and it is rounded to one from
half a unit below (`Decimal.one_le_value_iff_of_product?`). The price is one that the call has been
answered, whatever the market price is by then. -/
theorem least_value (defaultLimit : Nat) :
    (∀ (orderType : OrderType) (quantity price : Decimal), orderType.isBuy = true →
      Field.quantity quantity = .ok quantity → 0 < price.value → quantity.product? price ≠ none →
      (Rules.orderValue orderType quantity (some price) = .ok () ↔
        1 - 1 / (2 * 10 ^ 28) ≤ quantity.value * price.value) ∧
      (Decimal.IsDecimal (quantity.value * price.value) →
        (Rules.orderValue orderType quantity (some price) = .ok () ↔
          1 ≤ quantity.value * price.value))) ∧
    ∀ (d : Desk) (calls : List Call) (schedule : List Choice), d.orders = .empty →
      let s := (start d (calls.map (Call.program defaultLimit))).play schedule
      ∀ orderId order, s.desk.orders.get? orderId = some order → order.side = .buy →
        ∃ price, order.IsValuedAt (quotes s.trace) price ∧
          1 - 1 / (2 * 10 ^ 28) ≤ order.quantity.value * price.value ∧
          (order.orderType.isLimit = true → 1 ≤ order.quantity.value * price.value) := by
  constructor
  · intro orderType quantity price hbuy hfield hprice hrange
    obtain ⟨hquantity, -⟩ := Field.quantity_eq_ok_iff.1 hfield
    refine ⟨Rules.orderValue_eq_ok_iff_of_isBuy hbuy hquantity.nonneg hprice hrange, fun hfits => ?_⟩
    obtain ⟨value, hvalue, hexact⟩ := Decimal.exists_product?_of_isDecimal hfits
    rw [Rules.orderValue_eq_ok_iff (Rules.notional_eq_ok_iff.2 hvalue), hexact]
    simp [hbuy]
  · intro d calls schedule hempty s orderId order hget hbuy
    obtain ⟨hsound, price, hvalued⟩ := valued_orders defaultLimit d hempty calls schedule hget
    refine ⟨price, hvalued, hvalued.le_value hsound hbuy, fun hlimit => ?_⟩
    obtain ⟨limit, hprice, hexact⟩ := hsound.hasExactTotal hlimit
    obtain rfl : limit = price := by
      rcases hvalued.known with hsome | ⟨hnone, -⟩
      · exact Option.some.inj (hprice.symm.trans hsome)
      · cases hprice.symm.trans hnone
    rw [← hexact]
    exact hsound.worth hbuy

/-- Alice buys a half at the market price of 600, and the order is worth enough at a price that has
been quoted. -/
theorem least_value_of_market_order :
    let form : OrderForm :=
      { username := "alice", orderType := .marketBuy, assetId := "BTC", quantity := 0.5,
        orderPrice := none, expiresAt := none }
    let schedule := List.replicate 14 (.turn 0 (.small 0))
    let s := (start Desk.small ([.place form].map (Call.program 50))).play schedule
    (Rules.orderValue .marketBuy 0.5 (some 600) = .ok () ↔
      1 ≤ (0.5 : Decimal).value * (600 : Decimal).value) ∧
    ∃ orderId order, s.desk.orders.get? orderId = some order ∧ order.side = .buy ∧
      ∃ price, order.IsValuedAt (quotes s.trace) price ∧
        1 - 1 / (2 * 10 ^ 28) ≤ order.quantity.value * price.value := by
  intro form schedule s
  obtain ⟨hrule, hruns⟩ := least_value 50
  constructor
  · have hfits : Decimal.IsDecimal ((0.5 : Decimal).value * (600 : Decimal).value) := by
      refine ⟨300, ?_⟩
      show ((300 : ℤ) : ℚ) / 10 ^ 0 = ((5 : ℤ) : ℚ) / 10 ^ 1 * (((600 : ℤ) : ℚ) / 10 ^ 0)
      norm_num
    exact (hrule .marketBuy 0.5 600 rfl (by decide) (Decimal.value_pos.2 (by decide))
      (by decide)).2 hfits
  · have hstored : (s.desk.orders.get? ⟨"ord_20231114_221320_00000000_alice"⟩).map Order.side =
        some .buy := by
      decide +kernel
    obtain ⟨order, hget, hbuy⟩ := Option.map_eq_some_iff.1 hstored
    have hs : (start Desk.small ([.place form].map (Call.program 50))).play schedule = s := rfl
    have hworth := hruns Desk.small [.place form] schedule rfl
    dsimp only at hworth
    rw [hs] at hworth
    obtain ⟨price, hvalued, hleast, -⟩ := hworth _ order hget hbuy
    exact ⟨_, order, hget, hbuy, price, hvalued, hleast⟩

/-- Not every order that buys is worth one. The exact value of 1.2 at a price of five sixths, cut off
after 28 places, is less; it is rounded to one, and so the rule accepts the order and it is
stored. -/
theorem stored_below_least_value :
    let price : Decimal := 0.8333333333333333333333333333
    let d := Desk.small.putAsset (Asset.listed "BTC" "Bitcoin" price)
    let form : OrderForm :=
      { username := "alice", orderType := .marketBuy, assetId := "BTC", quantity := 1.2,
        orderPrice := none, expiresAt := none }
    let s := (start d ([.place form].map (Call.program 50))).play
      (List.replicate 14 (.turn 0 (.small 0)))
    Field.quantity 1.2 = .ok 1.2 ∧ 0 < price.value ∧ (1.2 : Decimal).product? price ≠ none ∧
      Rules.orderValue .marketBuy 1.2 (some price) = .ok () ∧
      (1.2 : Decimal).value * price.value < 1 ∧
      (s.desk.orders.get? ⟨"ord_20231114_221320_00000000_alice"⟩).map
        (fun order => (order.side, order.quantity)) = some (.buy, 1.2) ∧
      quotes s.trace = [(⟨"BTC"⟩, price), (⟨"BTC"⟩, price)] := by
  intro price d form s
  have hless : (1.2 : Decimal).value * price.value < 1 := by
    show ((12 : ℤ) : ℚ) / 10 ^ 1 * (((8333333333333333333333333333 : ℤ) : ℚ) / 10 ^ 28) < 1
    norm_num
  exact ⟨by decide, Decimal.value_pos.2 (by decide), by decide, by decide, hless, by decide +kernel,
    by decide +kernel⟩

end Traffic

end OrderDesk
