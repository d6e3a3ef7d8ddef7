import OrderDesk.Proofs.Traffic.Asked

/-!
# Orders in traffic are sound

A desk that starts without orders never stores one that is not sound, and never one under a foreign
order ID. A change of status is made on a copy that may be out of date, and users and assets may be
set to something else at any time; neither does any harm, since what is said of an order is about
its terms and about the time at which it was placed.

## Main results

* `OrderDesk.Traffic.sound_play` — in every run all stored orders are sound.
-/

set_option autoImplicit false

namespace OrderDesk.Traffic

/-- **Stored orders are sound.** Whatever calls are served at the same time, in whatever order they
go on, and whatever happens to users, assets and balances in between: on a desk that starts without
orders every stored order is stored under its own order ID and is sound.

**Proof sketch.** A call asks for the commit of a sound order, if it asks for a commit at all. All
later versions of the order are on the same terms. -/
theorem sound_play (defaultLimit : Nat) (d : Desk) (hempty : d.orders = .empty)
    (calls : List Call) (schedule : List Choice) {orderId : OrderId} {order : Order}
    (hget : ((start d (calls.map (Call.program defaultLimit))).play
      schedule).desk.orders.get? orderId = some order) :
    order.orderId = orderId ∧ order.IsSound := by
  refine forall_orders_play (fun _ _ h ha => ha.of_sameTerms h) defaultLimit d hempty calls schedule
    (fun turn hturn side order hasks => ?_) hget
  obtain ⟨call, -, hmay⟩ := mayAsk_play defaultLimit d calls schedule hturn
  rw [hasks] at hmay
  exact hmay.isSound

/-- Alice places a limit order, and while it is committed her account is closed and the asset is
repriced. The order is confirmed later, and it is sound. -/
theorem sound_of_confirmed_order :
    let form : OrderForm :=
      { username := " alice", orderType := .limitBuy, assetId := "btc", quantity := 0.50,
        orderPrice := some 100.5, expiresAt := some (.ofSeconds 1700003600) }
    let orderId := "ord_20231114_221324_00000000_alice"
    let calls : List Call := [.place form, .update orderId .confirmed .system]
    let schedule : List Choice :=
      ((List.range 7).map fun n => .turn 0 (.small n)) ++
        [.upkeep (.small 7) (.user { username := ⟨"alice"⟩, role := .customer, isActive := false }),
          .upkeep (.small 7) (.asset (Asset.listed "BTC" "Bitcoin" 0))] ++
        ((List.range 4).map fun n => .turn 0 (.small (n + 7))) ++
        (List.range 5).map fun n => .turn 1 (.small (n + 11))
    let s := (start Desk.small (calls.map (Call.program 50))).play schedule
    ∃ order, s.desk.orders.get? ⟨orderId⟩ = some order ∧ order.status = .confirmed ∧
      order.orderId = ⟨orderId⟩ ∧ order.IsSound := by
  intro form orderId calls schedule s
  have hstatus : (s.desk.orders.get? ⟨orderId⟩).map (fun order => order.status) =
      some .confirmed := by
    decide +kernel
  obtain ⟨order, hget, hconfirmed⟩ := Option.map_eq_some_iff.1 hstatus
  have hs : (start Desk.small (calls.map (Call.program 50))).play schedule = s := rfl
  have hsound := @sound_play 50 Desk.small rfl calls schedule ⟨orderId⟩ order
  rw [hs] at hsound
  exact ⟨order, hget, hconfirmed, hsound hget⟩

end OrderDesk.Traffic
