import OrderDesk.Proofs.Authority
import OrderDesk.Proofs.Listing

/-!
# Reading orders on one's own

Orders are read in two ways. Who asks for one order has to be permitted to act on it; who asks for a
listing has to be known, and nothing more. This module says what is told in both cases when the call
is served on its own.

## Main results

* `OrderDesk.Call.reply_order` — what is told about one stored order.
* `OrderDesk.Call.reply_orders_ok_iff` — when orders are listed, and which ones.
-/

set_option autoImplicit false

namespace OrderDesk

/-- Owners are permitted to act on their orders as long as they are active. -/
theorem Service.permit_self (user : User) :
    permit user user.username.text = if user.isActive then .ok () else .error inactiveUser := by
  cases hactive : user.isActive <;> simp [permit, hactive]

namespace Service

variable {moments : Nat → Moment} {d : Desk} {n : Nat} {s' : Desk × Nat}

/-- The newest orders of a user are looked up. -/
theorem run_ordersOf_ok_iff {owner : Username} {status : Option Status} {limit : Option Nat}
    {answer : (Request.ordersOf owner status limit).Answer} :
    (ask (.ordersOf owner status limit)).run (Desk.answerAt moments) (d, n) = (.ok answer, s') ↔
      answer = .ok (d.ordersOf owner status limit) ∧ s' = (d, n + 1) := by
  change (Except.ok (Except.ok (d.ordersOf owner status limit)), (d, n + 1)) =
    (Except.ok answer, s') ↔ _
  simp [eq_comm]

/-- A listing may be asked for by everybody who is known. -/
theorem run_checkListing_ok_iff {username : String} {limit : Option Int} {user : User} :
    (checkListing username limit).run (Desk.answerAt moments) (d, n) = (.ok user, s') ↔
      (listLimitAllowed limit = true ∧ d.users.get? ⟨username⟩ = some user) ∧ s' = (d, n + 1) := by
  unfold checkListing
  rw [run_guarded_ok_iff, run_requireUser_ok_iff, and_assoc]
  simp

/-- Orders are listed with their number and the limit that has been applied. -/
theorem run_orders_ok_iff {defaultLimit : Nat} {query : ListingQuery} {listing : OrderListing} :
    (orders defaultLimit query).run (Desk.answerAt moments) (d, n) = (.ok listing, s') ↔
      ∃ user, listLimitAllowed query.limit = true ∧
        d.users.get? ⟨query.username⟩ = some user ∧
        let limit := query.limit.elim defaultLimit Int.toNat
        listing = .ofOrders (d.ordersOf user.username query.status (some limit)) limit ∧
          s' = (d, n + 3) := by
  unfold orders
  simp only [run_step_ok_iff run_checkListing_ok_iff, run_step_ok_iff run_ordersOf_ok_iff,
    run_step_ok_iff run_ofAnswer_ok_iff, run_step_ok_iff run_log_ok_iff, run_pure_ok_iff]
  simp [and_assoc]

end Service

namespace Call

variable {d : Desk}

/-- **What is told about one order.** The order is shown to a user who is permitted to act on it,
and otherwise the user is told why not. -/
theorem reply_order (defaultLimit : Nat) (moments : Nat → Moment) {username orderId : String}
    {user : User} {stored : Order} (hvalid : OrderId.isValid orderId = true)
    (huser : d.users.get? ⟨username⟩ = some user)
    (hstored : d.orders.get? ⟨orderId⟩ = some stored) :
    (order username orderId).reply defaultLimit moments d =
      match Service.permit user stored.username.text with
      | .ok _ => .ok (.order stored.view)
      | .error e => .error (.error e) := by
  have horder : (Service.order username orderId).run (Desk.answerAt moments) (d, 0) =
      (match Service.permit user stored.username.text with
        | .ok _ => .ok stored.view
        | .error e => .error (.error e), d, 2) := by
    unfold Service.order
    rw [Service.run_bind, Service.run_ownedOrder moments 0 hvalid huser hstored]
    cases Service.permit user stored.username.text <;> rfl
  change ((Service.order username orderId >>= _).run _ _).1 = _
  rw [Service.run_bind, horder]
  cases Service.permit user stored.username.text <;> rfl

/-- **When orders are listed.** The limit is allowed and the user is known, whether or not the user
is active; then the newest orders of the user are listed. -/
theorem reply_orders_ok_iff {defaultLimit : Nat} {moments : Nat → Moment} {query : ListingQuery}
    {listing : OrderListing} :
    (orders query).reply defaultLimit moments d = .ok (.listing listing) ↔
      ∃ user, Service.listLimitAllowed query.limit = true ∧
        d.users.get? ⟨query.username⟩ = some user ∧
        let limit := query.limit.elim defaultLimit Int.toNat
        listing = .ofOrders (d.ordersOf user.username query.status (some limit)) limit := by
  have hreply : (orders query).reply defaultLimit moments d =
      (((Service.orders defaultLimit query >>= fun found => pure (.listing found)) :
        Service Receipt).run (Desk.answerAt moments) (d, 0)).1 := rfl
  have hsplit : ∀ r : Except (Failure ServiceError) Receipt × (Desk × Nat),
      r.1 = .ok (.listing listing) ↔ ∃ s', r = (.ok (.listing listing), s') :=
    fun r => ⟨fun h => ⟨r.2, Prod.ext h rfl⟩, fun ⟨_, h⟩ => congrArg Prod.fst h⟩
  rw [hreply, hsplit]
  simp only [Service.run_bind_ok_iff, Service.run_orders_ok_iff, Service.run_pure_ok_iff]
  constructor
  · rintro ⟨_, found, _, ⟨user, hlimit, huser, rfl, -⟩, hfound, -⟩
    obtain rfl := Receipt.listing.inj hfound
    exact ⟨user, hlimit, huser, rfl⟩
  · rintro ⟨user, hlimit, huser, rfl⟩
    exact ⟨_, _, _, ⟨user, hlimit, huser, rfl, rfl⟩, rfl, rfl⟩

end Call

end OrderDesk
