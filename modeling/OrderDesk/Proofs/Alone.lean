import OrderDesk.Proofs.Fields
import OrderDesk.Proofs.Footprint
import OrderDesk.Proofs.Shortage

/-!
# Services that are run on their own

What the steps of the service come to when nobody else uses the desk. Each check comes to a
condition on the desk, and it leaves the desk as it is; the requests are counted, since each is
answered at a moment of its own.

## Main definitions

* `OrderDesk.Desk.price?` — the price by which a new order is valued.
* `OrderDesk.Desk.Admits` — the desk has an active user, an active asset and enough money.

## Main results

* `OrderDesk.Service.run_bind_ok_iff` — when one step after another succeeds.
* `OrderDesk.Service.run_checkPlacement_ok_iff`, `OrderDesk.Service.run_commit_ok_iff` and their
  neighbours — when a step succeeds.
-/

set_option autoImplicit false

namespace OrderDesk

/-- The price by which a new order is valued: its limit price, or the market price if it is
positive. -/
def Desk.price? (d : Desk) (request : OrderRequest) : Option Decimal :=
  match request.orderPrice with
  | some price => some price
  | none =>
    match d.assets.get? request.assetId with
    | some asset => if asset.price ≤ Decimal.zero then none else some asset.price
    | none => none

/-- The desk **admits** a new order of some value: user and asset are there and active, the value is
high enough and, if the order buys, it is there. -/
structure Desk.Admits (d : Desk) (request : OrderRequest) (user : User) (asset : Asset)
    (value : Decimal) : Prop where
  findUser : d.users.get? request.username = some user
  userActive : user.isActive = true
  findAsset : d.assets.get? request.assetId = some asset
  assetActive : asset.isActive = true
  worth : request.orderType.isBuy = true → 1 ≤ value.value
  covered : request.orderType.isBuy = true →
    value ≤ (d.balances.get? request.username).elim .zero Balance.current

namespace Service

/-! ## Any surroundings -/

section Steps

variable {σ α β ε : Type} {h : Handler σ} {s s' : σ}

/-- One step after another succeeds exactly if the first one does and then the second one. -/
theorem run_bind_ok_iff {x : Service α} {f : α → Service β} {b : β} :
    (x >>= f).run h s = (.ok b, s') ↔
      ∃ a between, x.run h s = (.ok a, between) ∧ (f a).run h between = (.ok b, s') := by
  rw [run_bind]
  rcases x.run h s with ⟨r, between⟩
  cases r with
  | ok a => simp
  | error e => simp

/-- One step after another, where the first one leaves the surroundings in a state that is known. -/
theorem run_step_ok_iff {x : Service α} {f : α → Service β} {b : β} {between : σ} {P : α → Prop}
    (hx : ∀ {a s'}, x.run h s = (.ok a, s') ↔ P a ∧ s' = between) :
    (x >>= f).run h s = (.ok b, s') ↔ ∃ a, P a ∧ (f a).run h between = (.ok b, s') := by
  rw [run_bind_ok_iff]
  constructor
  · rintro ⟨a, _, hrun, hrest⟩
    obtain ⟨ha, rfl⟩ := hx.1 hrun
    exact ⟨a, ha, hrest⟩
  · rintro ⟨a, ha, hrest⟩
    exact ⟨a, between, hx.2 ⟨ha, rfl⟩, hrest⟩

/-- A value is there at once. -/
theorem run_pure_ok_iff {a b : α} :
    (pure a : Service α).run h s = (.ok b, s') ↔ b = a ∧ s' = s := by
  change (Except.ok a, s) = (Except.ok b, s') ↔ _
  simp [eq_comm]

/-- Nothing is there after a refusal. -/
theorem run_refuse_ne {e : ServiceError} {a : α} :
    (refuse e : Service α).run h s ≠ (.ok a, s') := by
  intro hrun
  cases hrun

/-- A check succeeds with its value. -/
theorem run_ofExcept_ok_iff {tell : ε → ServiceError} {r : Except ε α} {a : α} :
    (ofExcept tell r).run h s = (.ok a, s') ↔ r = .ok a ∧ s' = s := by
  cases r with
  | ok b => exact run_pure_ok_iff.trans (by simp [eq_comm])
  | error e => simp [ofExcept, run_refuse_ne]

/-- Telling a cause is no success. -/
theorem run_fail_ne {cause : Cause} {a : α} :
    (fail cause : Service α).run h s ≠ (.ok a, s') := by
  intro hrun
  unfold fail at hrun
  split at hrun
  · obtain ⟨_, _, -, hrefuse⟩ := run_bind_ok_iff.1 hrun
    exact run_refuse_ne hrefuse
  · exact run_refuse_ne hrun

/-- An answer succeeds with its value. -/
theorem run_ofAnswer_ok_iff {cause : ε → Cause} {r : Except ε α} {a : α} :
    (ofAnswer cause r).run h s = (.ok a, s') ↔ r = .ok a ∧ s' = s := by
  cases r with
  | ok b => exact run_pure_ok_iff.trans (by simp [eq_comm])
  | error e => simp [ofAnswer, run_fail_ne]

/-- A report of errors makes no difference to a success. -/
theorem run_reporting_ok_iff {event : ServiceError → Event} {x : Service α} {a : α} :
    (reporting event x).run h s = (.ok a, s') ↔ x.run h s = (.ok a, s') := by
  change Program.run h ((ExceptT.run x).andThen _) s = _ ↔ Program.run h (ExceptT.run x) s = _
  rw [Program.run_andThen]
  rcases Program.run h (ExceptT.run x) s with ⟨r, between⟩
  match r with
  | .ok b => exact Iff.rfl
  | .error (.error e) => constructor <;> (intro hrun; cases hrun)
  | .error .sumOverflow => exact Iff.rfl

/-- A step that is refused under a condition succeeds exactly if the condition fails and the rest
succeeds. -/
theorem run_guarded_ok_iff {c : Prop} [Decidable c] {e : ServiceError} {rest : Unit → Service α}
    {a : α} :
    (if c then (do let r ← refuse e; rest r) else rest ()).run h s = (.ok a, s') ↔
      ¬c ∧ (rest ()).run h s = (.ok a, s') := by
  by_cases hc : c
  · simp [hc, run_bind_ok_iff, run_refuse_ne]
  · simp [hc]

end Steps

/-! ## The desk -/

section Desk

variable {moments : Nat → Moment} {d : Desk} {n : Nat} {s' : Desk × Nat}

/-- The clock is read. -/
theorem run_clock_ok_iff {t : Instant} :
    clock.run (Desk.answerAt moments) (d, n) = (.ok t, s') ↔
      t = (moments n).now ∧ s' = (d, n + 1) := by
  change (Except.ok (moments n).now, (d, n + 1)) = (Except.ok t, s') ↔ _
  simp [eq_comm]

/-- A random identifier is drawn. -/
theorem run_token_ok_iff {t : Uuid} :
    token.run (Desk.answerAt moments) (d, n) = (.ok t, s') ↔
      t = (moments n).token ∧ s' = (d, n + 1) := by
  change (Except.ok (moments n).token, (d, n + 1)) = (Except.ok t, s') ↔ _
  simp [eq_comm]

/-- An event is reported. -/
theorem run_log_ok_iff {event : Event} {u : Unit} :
    (log event).run (Desk.answerAt moments) (d, n) = (.ok u, s') ↔ True ∧ s' = (d, n + 1) := by
  change (Except.ok (), (d, n + 1)) = (Except.ok u, s') ↔ _
  simp [eq_comm]

/-- A user is looked up. -/
theorem run_requireUser (username : String) :
    (requireUser username).run (Desk.answerAt moments) (d, n) =
      (match d.users.get? ⟨username⟩ with
        | some user => .ok user
        | none => .error (.error (.notFound .user username)), d, n + 1) := by
  have hanswer : Desk.answerAt moments (.findUser username) (d, n) =
      (.ok (d.users.get? ⟨username⟩), d, n + 1) := rfl
  change Program.run _ (.ask (.findUser username) _) (d, n) = _
  rw [Program.run, hanswer]
  cases d.users.get? ⟨username⟩ <;> rfl

/-- An asset is looked up. -/
theorem run_requireAsset (assetId : AssetId) :
    (requireAsset assetId).run (Desk.answerAt moments) (d, n) =
      (match d.assets.get? assetId with
        | some asset => .ok asset
        | none => .error (.error (.notFound .asset assetId.text)), d, n + 1) := by
  have hanswer : Desk.answerAt moments (.findAsset assetId) (d, n) =
      (.ok (d.assets.get? assetId), d, n + 1) := rfl
  change Program.run _ (.ask (.findAsset assetId) _) (d, n) = _
  rw [Program.run, hanswer]
  cases d.assets.get? assetId <;> rfl

/-- An order is looked up. -/
theorem run_requireOrder (orderId : OrderId) :
    (requireOrder orderId).run (Desk.answerAt moments) (d, n) =
      (match d.orders.get? orderId with
        | some order => .ok order
        | none => .error (.error (.notFound .order orderId.text)), d, n + 1) := by
  have hanswer : Desk.answerAt moments (.findOrder orderId) (d, n) =
      (.ok (d.orders.get? orderId), d, n + 1) := rfl
  change Program.run _ (.ask (.findOrder orderId) _) (d, n) = _
  rw [Program.run, hanswer]
  cases d.orders.get? orderId <;> rfl

/-- An order is committed by the desk, and the commit is reported. -/
theorem run_commit (order : Order) :
    (commit order).run (Desk.answerAt moments) (d, n) =
      match d.commit (moments n) order.side order with
      | (.ok settlement, after) => (.ok settlement, after, n + 2)
      | (.error (.error e), after) =>
        (log (.transactionFailed order.orderId e) >>= fun _ => fail (.transaction e)).run
          (Desk.answerAt moments) (after, n + 1)
      | (.error .sumOverflow, after) => (.error .sumOverflow, after, n + 1) := by
  have hanswer : Desk.answerAt moments (.commit order.side order) (d, n) =
      ((d.commit (moments n) order.side order).1, (d.commit (moments n) order.side order).2,
        n + 1) := rfl
  change Program.run _ (.ask (.commit order.side order) _) (d, n) = _
  rw [Program.run, hanswer]
  rcases d.commit (moments n) order.side order with ⟨failure | settlement, after⟩
  · cases failure <;> rfl
  · rfl

/-- A user is found. -/
theorem run_requireUser_ok_iff {username : String} {user : User} :
    (requireUser username).run (Desk.answerAt moments) (d, n) = (.ok user, s') ↔
      d.users.get? ⟨username⟩ = some user ∧ s' = (d, n + 1) := by
  rw [run_requireUser]
  cases d.users.get? ⟨username⟩ <;> simp [eq_comm]

/-- An asset is found. -/
theorem run_requireAsset_ok_iff {assetId : AssetId} {asset : Asset} :
    (requireAsset assetId).run (Desk.answerAt moments) (d, n) = (.ok asset, s') ↔
      d.assets.get? assetId = some asset ∧ s' = (d, n + 1) := by
  rw [run_requireAsset]
  cases d.assets.get? assetId <;> simp [eq_comm]

/-- An order is found. -/
theorem run_requireOrder_ok_iff {key : OrderId} {order : Order} :
    (requireOrder key).run (Desk.answerAt moments) (d, n) = (.ok order, s') ↔
      d.orders.get? key = some order ∧ s' = (d, n + 1) := by
  rw [run_requireOrder]
  cases d.orders.get? key <;> simp [eq_comm]

/-- A balance is read if the lock is had. -/
theorem run_findBalance_ok_iff (hfree : (moments n).stalled = none) {username : Username}
    {answer : (Request.findBalance username.text).Answer} :
    (ask (.findBalance username.text)).run (Desk.answerAt moments) (d, n) = (.ok answer, s') ↔
      answer = .ok (d.balances.get? username) ∧ s' = (d, n + 1) := by
  change (Except.ok (d.readBalance (moments n) username), (d, n + 1)) = (Except.ok answer, s') ↔ _
  rw [Desk.readBalance, hfree]
  simp [eq_comm]

/-- An order is valued by a price. -/
theorem run_effectivePrice_ok_iff {request : OrderRequest} {price : Decimal} :
    (effectivePrice request).run (Desk.answerAt moments) (d, n) = (.ok price, s') ↔
      d.price? request = some price ∧ s' = (d, if request.orderPrice.isSome then n else n + 1) := by
  unfold effectivePrice Desk.price?
  cases request.orderPrice with
  | some p => exact run_pure_ok_iff.trans (by simp [eq_comm])
  | none =>
    unfold marketPrice
    rw [run_step_ok_iff run_requireAsset_ok_iff]
    simp only [run_guarded_ok_iff, run_pure_ok_iff]
    cases d.assets.get? request.assetId with
    | none => simp
    | some asset =>
      by_cases hprice : asset.price ≤ Decimal.zero
      · simp [hprice]
      · simp [hprice, eq_comm]

/-- A new order is checked against its user, its asset and a balance. -/
theorem run_checkPlacement_ok_iff (hfree : ∀ n, (moments n).stalled = none)
    {request : OrderRequest} {price : Decimal} {placement : Placement} :
    (checkPlacement request.username request.assetId request.orderType request.quantity
        price).run (Desk.answerAt moments) (d, n) = (.ok placement, s') ↔
      (∃ user asset value, Rules.notional request.quantity price = .ok value ∧
        d.Admits request user asset value ∧
        placement = { user, asset, available :=
          (d.balances.get? request.username).elim .zero Balance.current }) ∧
      s' = (d, n + 3) := by
  unfold checkPlacement
  rw [run_step_ok_iff run_requireUser_ok_iff]
  simp only [run_guarded_ok_iff, run_step_ok_iff run_requireAsset_ok_iff,
    run_step_ok_iff run_ofExcept_ok_iff, rule, run_step_ok_iff (run_findBalance_ok_iff (hfree _)),
    run_step_ok_iff run_ofAnswer_ok_iff, run_pure_ok_iff]
  constructor
  · rintro ⟨user, hfind, hactive, asset, hfind', hactive', value, hvalue, _, hworth, _, rfl, _, ⟨⟩,
      hcovered, rfl, rfl⟩
    refine ⟨⟨user, asset, value, hvalue, ?_, rfl⟩, rfl⟩
    exact
      { findUser := hfind
        userActive := by simpa using hactive
        findAsset := hfind'
        assetActive := by simpa using hactive'
        worth := (Rules.orderValue_eq_ok_iff hvalue).1 hworth
        covered := fun hbuy => Decimal.not_lt.1 fun hless => hcovered ⟨hbuy, hless⟩ }
  · rintro ⟨⟨user, asset, value, hvalue, h, rfl⟩, rfl⟩
    exact ⟨user, h.findUser, by simp [h.userActive], asset, h.findAsset, by simp [h.assetActive],
      value, hvalue, (), (Rules.orderValue_eq_ok_iff hvalue).2 h.worth, _, rfl, _, rfl,
      fun hshort => Decimal.not_le.2 hshort.2 (h.covered hshort.1), rfl, rfl⟩

/-- An order is committed if its money can be moved and its order ID is not taken. -/
theorem run_commit_ok_iff (hfree : (moments n).stalled = none) {order : Order}
    {settlement : Settlement} :
    (commit order).run (Desk.answerAt moments) (d, n) = (.ok settlement, s') ↔
      ∃ balance, Desk.charge order.side (d.balanceOf order.username (moments n).now)
          order.totalAmount (moments n).now = .ok balance ∧
        d.orders.get? order.orderId = none ∧ settlement = ⟨order, balance⟩ ∧
        s' = ((d.putOrder order).putBalance balance, n + 2) := by
  obtain ⟨d', k⟩ := s'
  have hcommit : (commit order).run (Desk.answerAt moments) (d, n) = (.ok settlement, d', k) ↔
      d.commit (moments n) order.side order = (.ok settlement, d') ∧ k = n + 2 := by
    rw [run_commit]
    match d.commit (moments n) order.side order with
    | (.ok settled, after) => simp [eq_comm, and_assoc]
    | (.error (.error e), after) =>
      have hfails : (log (.transactionFailed order.orderId e) >>= fun _ =>
          fail (.transaction e)).run (Desk.answerAt moments) (after, n + 1) ≠
            (.ok settlement, d', k) := by
        rw [Ne, run_step_ok_iff run_log_ok_iff]
        rintro ⟨_, -, hrun⟩
        exact run_fail_ne hrun
      exact ⟨fun hrun => absurd hrun hfails, fun h => by cases h.1⟩
    | (.error .sumOverflow, after) => simp
  rw [hcommit, Desk.commit_eq_ok_iff hfree]
  constructor
  · rintro ⟨⟨balance, hcharge, hnew, rfl, rfl⟩, rfl⟩
    exact ⟨balance, hcharge, hnew, rfl, rfl⟩
  · rintro ⟨balance, hcharge, hnew, rfl, hs⟩
    cases hs
    exact ⟨⟨balance, hcharge, hnew, rfl, rfl⟩, rfl⟩

/-- An order is committed and reported. -/
theorem run_settled_ok_iff (hfree : (moments n).stalled = none) {order : Order} {view : OrderView} :
    (do
      let settlement ← commit order
      log (.orderCreated settlement.order settlement.balance)
      return settlement.order.view : Service OrderView).run (Desk.answerAt moments) (d, n) =
        (.ok view, s') ↔
      ∃ balance, Desk.charge order.side (d.balanceOf order.username (moments n).now)
          order.totalAmount (moments n).now = .ok balance ∧
        d.orders.get? order.orderId = none ∧ view = order.view ∧
        s' = ((d.putOrder order).putBalance balance, n + 3) := by
  rw [run_bind_ok_iff]
  constructor
  · rintro ⟨settlement, _, hcommit, hrest⟩
    obtain ⟨balance, hcharge, hnew, rfl, rfl⟩ := (run_commit_ok_iff hfree).1 hcommit
    rw [run_step_ok_iff run_log_ok_iff] at hrest
    obtain ⟨_, -, hpure⟩ := hrest
    obtain ⟨rfl, rfl⟩ := run_pure_ok_iff.1 hpure
    exact ⟨balance, hcharge, hnew, rfl, rfl⟩
  · rintro ⟨balance, hcharge, hnew, rfl, rfl⟩
    refine ⟨_, _, (run_commit_ok_iff hfree).2 ⟨balance, hcharge, hnew, rfl, rfl⟩, ?_⟩
    rw [run_step_ok_iff run_log_ok_iff]
    exact ⟨(), trivial, run_pure_ok_iff.2 ⟨rfl, rfl⟩⟩

end Desk

end Service

end OrderDesk
