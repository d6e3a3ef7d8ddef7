import OrderDesk.Proofs.Reading
import OrderDesk.Proofs.Traffic.Ledger
import OrderDesk.Proofs.Traffic.Sound

/-!
# Two ways to read an order agree

What is listed can be asked for one by one: every order that the service has placed has an order ID
that is read back, it is stored under this order ID, and it is listed for its owner only. The two
ways part where an account has been closed. Its orders are still listed, and none of them is shown
on its own.

## Main results

* `OrderDesk.Traffic.listing_agrees_play` — in every run a listed order is shown on its own exactly
  as it is listed, to a user who is active.
-/

set_option autoImplicit false

namespace OrderDesk.Traffic

variable {α : Type}

/-- A balance that has yet to be stored is no user. -/
theorem users_settled (s : Traffic α) : s.settled.users = s.desk.users := by
  cases hlock : s.lock <;> simp only [settled, hlock]
  rfl

/-- In every run each user is stored under the name of the user. -/
theorem keyed_users_play {d : Desk} (hd : d.Keyed) (calls : List (Program α))
    (schedule : List Choice) :
    ((start d calls).play schedule).desk.users.Keyed User.username :=
  users_settled _ ▸ (keyed_settled_play hd calls schedule).users

/-- **Listing and asking agree.** Whatever calls are served at the same time, and whatever happens
to users, assets and balances in between: each order that is listed for a user is shown to this user
on its own exactly as it is listed, provided that the user is active. A user who is not active is
denied each of them.

**Proof sketch.** A listed order is the user's own, so the user is permitted to act on it if active.
It was placed by the service, so its order ID is read back, and it is stored under it. -/
theorem listing_agrees_play (defaultLimit : Nat) (d : Desk) (hd : d.Keyed)
    (hempty : d.orders = .empty) (calls : List Call) (schedule : List Choice)
    (query : ListingQuery) (listing : OrderListing) (moments moments' : Nat → Moment) :
    let desk := ((start d (calls.map (Call.program defaultLimit))).play schedule).desk
    (Call.orders query).reply defaultLimit moments desk = .ok (.listing listing) →
    ∃ user, desk.users.get? ⟨query.username⟩ = some user ∧
      ∀ view ∈ listing.orders,
        (Call.order query.username view.orderId.text).reply defaultLimit moments' desk =
          if user.isActive then .ok (.order view) else .error (.error Service.inactiveUser) := by
  intro desk hlisted
  obtain ⟨user, -, huser, rfl⟩ := Call.reply_orders_ok_iff.1 hlisted
  refine ⟨user, huser, fun view hview => ?_⟩
  have husername : user.username = ⟨query.username⟩ :=
    keyed_users_play hd _ schedule _ user huser
  have hkeyed : desk.orders.Keyed fun o => o.orderId := fun orderId order hget =>
    (sound_play defaultLimit d hempty calls schedule hget).1
  obtain ⟨order, horder, rfl⟩ := List.mem_map.1 hview
  obtain ⟨-, howner, -⟩ := Desk.mem_of_mem_ordersOf horder
  have hstored : desk.orders.get? order.orderId = some order :=
    Desk.get?_of_mem_ordersOf hkeyed horder
  have hvalid : OrderId.isValid order.orderId.text = true := by
    obtain ⟨components, hparse⟩ :=
      (sound_play defaultLimit d hempty calls schedule hstored).2.orderId
    simp only [OrderId.isValid, hparse]
  have hreply := Call.reply_order defaultLimit moments' hvalid huser hstored
  rw [howner, Service.permit_self] at hreply
  refine hreply.trans ?_
  cases user.isActive <;> rfl

/-- Alice places an order and becomes an administrator; she still lists the order, and she is shown
what is listed. -/
theorem listing_agrees_of_promoted_user :
    let form : OrderForm :=
      { username := "alice", orderType := .marketBuy, assetId := "btc", quantity := 1,
        orderPrice := none, expiresAt := none }
    let promoted : User := { username := ⟨"alice"⟩, role := .admin, isActive := true }
    let schedule : List Choice :=
      ((List.range 14).map fun n => .turn 0 (.small n)) ++ [.upkeep (.small 14) (.user promoted)]
    let query : ListingQuery := { username := "alice", status := some .pending, limit := some 5 }
    let desk := ((start Desk.small ([.place form].map (Call.program 50))).play schedule).desk
    ∃ listing, (Call.orders query).reply 50 .small desk = .ok (.listing listing) ∧
      listing.count = 1 ∧
      ∃ user, desk.users.get? ⟨query.username⟩ = some user ∧
        ∀ view ∈ listing.orders,
          (Call.order query.username view.orderId.text).reply 50 .small desk =
            if user.isActive then .ok (.order view) else .error (.error Service.inactiveUser) := by
  intro form promoted schedule query desk
  have hlisted : (Call.orders query).reply 50 .small desk =
      .ok (.listing (.ofOrders (desk.ordersOf ⟨"alice"⟩ (some .pending) (some 5)) 5)) := by
    decide +kernel
  exact ⟨_, hlisted, by decide +kernel,
    listing_agrees_play 50 _ Desk.keyed_small rfl [.place form] schedule query _ .small .small
      hlisted⟩

/-- Alice places an order and her account is closed. The order is still listed for her, and she is
denied it. -/
theorem listing_disagrees_of_closed_account :
    let form : OrderForm :=
      { username := "alice", orderType := .marketBuy, assetId := "btc", quantity := 1,
        orderPrice := none, expiresAt := none }
    let closed : User := { username := ⟨"alice"⟩, role := .customer, isActive := false }
    let schedule : List Choice :=
      ((List.range 14).map fun n => .turn 0 (.small n)) ++ [.upkeep (.small 14) (.user closed)]
    let query : ListingQuery := { username := "alice", status := none, limit := none }
    let desk := ((start Desk.small ([.place form].map (Call.program 50))).play schedule).desk
    ∃ view, (Call.orders query).reply 50 .small desk =
        .ok (.listing { orders := [view], count := 1, limit := 50 }) ∧
      (Call.order "alice" view.orderId.text).reply 50 .small desk =
        .error (.error (.permissionDenied "User account is inactive")) := by
  intro form closed schedule query desk
  let view : OrderView :=
    { orderId := ⟨"ord_20231114_221325_00000000_alice"⟩, username := ⟨"alice"⟩,
      orderType := .marketBuy, assetId := ⟨"BTC"⟩, quantity := 1, orderPrice := none,
      totalAmount := 600.00, status := .pending, expiresAt := none,
      createdAt := .ofSeconds 1700000000, updatedAt := .ofSeconds 1700000000, side := .buy }
  exact ⟨view, by decide +kernel, by decide +kernel⟩

end OrderDesk.Traffic
