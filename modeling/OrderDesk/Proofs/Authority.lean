import OrderDesk.Proofs.Alone
import OrderDesk.Proofs.Requests

/-!
# Authority over a change of status

Three checks decide on a change of status: a user has to be permitted to act on the order, a user
asks for nothing but a cancellation, and the table of moves has the last word. This module says what
the three come to when a change is asked for on its own, and which error is told if it is refused.

## Main definitions

* `OrderDesk.User.MayActOn` — a user is permitted to act on an order.
* `OrderDesk.Actor.MayActOn`, `OrderDesk.Actor.MayMove` — an actor may act on an order, and may move
  an order from one status to another.
* `OrderDesk.Call.reply` — the reply to a call that is served on its own.

## Main results

* `OrderDesk.Service.run_updateStatus` — what a change of a known order comes to.
* `OrderDesk.Call.exists_reply_update_iff` — when a change succeeds.
* `OrderDesk.Call.reply_update_refused`, `OrderDesk.Call.reply_update_denied` — what users are told
  if it does not.
-/

set_option autoImplicit false

namespace OrderDesk

/-! ## Who may do what -/

/-- A user **may act** on an order: the user is active, and an administrator or the owner. -/
structure User.MayActOn (user : User) (order : Order) : Prop where
  active : user.isActive = true
  adminOrOwner : user.isAdmin = true ∨ user.username = order.username

/-- An actor may act on an order: a user who is known and permitted, or the system. -/
def Actor.MayActOn (d : Desk) (order : Order) : Actor → Prop
  | user username => ∃ user, d.users.get? ⟨username⟩ = some user ∧ user.MayActOn order
  | system => True

/-- An actor may move an order from one status to another: the system along the table, users out of
`PENDING` and `CONFIRMED` into `CANCELLED` only. -/
def Actor.MayMove (current target : Status) : Actor → Prop
  | user _ => target = .cancelled ∧ (current = .pending ∨ current = .confirmed)
  | system => current.canMoveTo target = true

/-- A user may cancel an order that is pending or confirmed. -/
theorem Status.canUserCancel_iff {s : Status} :
    s.canUserCancel = true ↔ s = .pending ∨ s = .confirmed := by
  cases s <;> decide

/-- The permission that is asked for is the one to act on the order. -/
theorem Service.permit_eq_ok_iff {user : User} {order : Order} {u : Unit} :
    permit user order.username.text = .ok u ↔ user.MayActOn order := by
  have howner : user.username.text = order.username.text ↔ user.username = order.username :=
    ⟨fun h => congrArg Username.mk h, congrArg Username.text⟩
  unfold permit
  by_cases hactive : user.isActive = true
  · by_cases hmay : user.isAdmin = true ∨ user.username.text = order.username.text
    · simp only [hactive, Bool.not_true, Bool.false_eq_true, if_false, if_pos hmay, true_iff]
      exact ⟨hactive, hmay.imp_right howner.1⟩
    · simp only [hactive, Bool.not_true, Bool.false_eq_true, if_false, if_neg hmay, reduceCtorEq,
        false_iff]
      exact fun h => hmay (h.adminOrOwner.imp_right howner.2)
  · simp only [hactive, Bool.not_false, if_true, reduceCtorEq, false_iff]
    exact fun h => hactive h.active

/-- A permission that is not given is denied. -/
theorem Service.exists_of_permit_eq_error {user : User} {owner : String} {e : ServiceError}
    (h : permit user owner = .error e) : ∃ message, e = .permissionDenied message := by
  unfold permit at h
  split at h
  · exact ⟨_, (Except.error.inj h).symm⟩
  · split at h
    · cases h
    · exact ⟨_, (Except.error.inj h).symm⟩

/-! ## The table and the actor -/

/-- What is authorized on behalf of the system is the table. -/
theorem Status.authorize_system (current target : Status) :
    current.authorize target false true =
      if current.canMoveTo target then .ok () else .error (.invalidTransition current target) := by
  cases hmove : current.canMoveTo target <;> simp [authorize, hmove]

/-- A move that is refused to a user is a matter of permission exactly if it is in the table. -/
theorem Status.isPermission_of_authorize {current target : Status} {e : TransitionError}
    (h : current.authorize target true false = .error e) :
    e.isPermission = current.canMoveTo target := by
  unfold authorize at h
  split at h
  · next hoff =>
    have hmove : current.canMoveTo target = false := by simpa using hoff
    rw [hmove, ← Except.error.inj h]
    rfl
  · next hon =>
    have hmove : current.canMoveTo target = true := by simpa using hon
    rw [hmove]
    -- the table allows the move, so whatever refuses it is about the user
    split_ifs at h <;> cases h <;> rfl

namespace Service

variable {order : Order} {target : Status}

/-- An actor is granted a move exactly if the actor may move an order so. -/
theorem exists_moved_iff {actor : Actor} (now : Instant) :
    (∃ changed, moved actor order target now = .ok changed) ↔
      actor.MayMove order.status target := by
  cases actor with
  | system =>
    simp only [moved, Actor.isSystem, Actor.MayMove, Order.moveTo, Bool.not_true,
      Status.authorize_system, Bool.false_eq_true, false_and, if_false]
    cases order.status.canMoveTo target <;> simp
  | user username =>
    constructor
    · rintro ⟨changed, hmoved⟩
      obtain ⟨hcancelled, hcancel⟩ := isUserCancellation_of_moved hmoved
      have hstatus : changed.status = target := by
        rw [(eq_withStatus_of_moved hmoved).2]
        rfl
      exact ⟨hstatus.symm.trans hcancelled, Status.canUserCancel_iff.1 hcancel⟩
    · rintro ⟨rfl, hstatus⟩
      simp only [moved, Actor.isSystem, Order.moveTo, ne_eq, not_true_eq_false, false_and,
        and_false, if_false]
      rcases hstatus with hstatus | hstatus <;> exact ⟨_, by rw [hstatus]; rfl⟩

/-- A move that is refused to a user is a matter of permission exactly if it is in the table. -/
theorem isPermission_of_moved {username : String} {now : Instant} {e : TransitionError}
    (h : moved (.user username) order target now = .error e) :
    e.isPermission = order.status.canMoveTo target := by
  unfold moved at h
  split at h
  · next hopen =>
    obtain rfl := Except.error.inj h
    exact hopen.2.2.symm
  · unfold Order.moveTo at h
    split at h
    · cases h
    · next hrefused =>
      obtain rfl := Except.error.inj h
      exact Status.isPermission_of_authorize hrefused

end Service

/-! ## A change on its own -/

namespace Service

variable {moments : Nat → Moment} {d : Desk} {n : Nat} {order : Order} {orderId : String}

/-- An order that a user may act on is found. -/
theorem run_ownedOrder_ok_iff {username : String} {s' : Desk × Nat} :
    (ownedOrder username orderId).run (Desk.answerAt moments) (d, n) = (.ok order, s') ↔
      OrderId.isValid orderId = true ∧ d.orders.get? ⟨orderId⟩ = some order ∧
        (Actor.user username).MayActOn d order ∧ s' = (d, n + 2) := by
  unfold ownedOrder field
  simp only [run_step_ok_iff run_ofExcept_ok_iff, run_step_ok_iff run_requireUser_ok_iff,
    run_step_ok_iff run_requireOrder_ok_iff, run_pure_ok_iff, Field.orderId_eq_ok_iff,
    permit_eq_ok_iff]
  constructor
  · rintro ⟨_, ⟨hvalid, rfl⟩, user, huser, stored, hstored, _, hmay, rfl, rfl⟩
    exact ⟨hvalid, hstored, ⟨user, huser, hmay⟩, rfl⟩
  · rintro ⟨hvalid, hstored, ⟨user, huser, hmay⟩, rfl⟩
    exact ⟨_, ⟨hvalid, rfl⟩, user, huser, order, hstored, (), hmay, rfl, rfl⟩

/-- What becomes of the lookup of a stored order is a matter of permission. -/
theorem run_ownedOrder (moments : Nat → Moment) (n : Nat) {username : String} {user : User}
    (hvalid : OrderId.isValid orderId = true) (huser : d.users.get? ⟨username⟩ = some user)
    (hstored : d.orders.get? ⟨orderId⟩ = some order) :
    (ownedOrder username orderId).run (Desk.answerAt moments) (d, n) =
      (match permit user order.username.text with
        | .ok _ => .ok order
        | .error e => .error (.error e), d, n + 2) := by
  have hkey : Field.orderId orderId = .ok ⟨orderId⟩ := Field.orderId_eq_ok_iff.2 ⟨hvalid, rfl⟩
  unfold ownedOrder
  rw [hkey]
  change (requireUser username >>= _).run _ _ = _
  rw [run_bind, run_requireUser, huser]
  dsimp only
  rw [run_bind, run_requireOrder, hstored]
  dsimp only
  cases permit user order.username.text <;> rfl

/-- A user who may not act on an order is denied it. -/
theorem run_ownedOrder_denied (moments : Nat → Moment) (n : Nat) {username : String} {user : User}
    (hvalid : OrderId.isValid orderId = true) (huser : d.users.get? ⟨username⟩ = some user)
    (hstored : d.orders.get? ⟨orderId⟩ = some order) (hmay : ¬user.MayActOn order) :
    ∃ message, (ownedOrder username orderId).run (Desk.answerAt moments) (d, n) =
      (.error (.error (.permissionDenied message)), d, n + 2) := by
  cases hpermit : permit user order.username.text with
  | ok u => exact absurd (permit_eq_ok_iff.1 hpermit) hmay
  | error e =>
    obtain ⟨message, rfl⟩ := exists_of_permit_eq_error hpermit
    exact ⟨message, by rw [run_ownedOrder moments n hvalid huser hstored, hpermit]⟩

/-- The order that an actor asks about is found, if the actor may act on it. -/
theorem run_orderFor_ok_iff {actor : Actor} {s' : Desk × Nat} :
    (orderFor actor orderId).run (Desk.answerAt moments) (d, n) = (.ok order, s') ↔
      OrderId.isValid orderId = true ∧ d.orders.get? ⟨orderId⟩ = some order ∧
        actor.MayActOn d order ∧ s' = (d, if actor.isSystem then n + 1 else n + 2) := by
  cases actor with
  | user username => exact run_ownedOrder_ok_iff
  | system =>
    simp only [orderFor, field, run_step_ok_iff run_ofExcept_ok_iff, run_requireOrder_ok_iff,
      Field.orderId_eq_ok_iff, Actor.MayActOn, true_and]
    constructor
    · rintro ⟨_, ⟨hvalid, rfl⟩, hstored, rfl⟩
      exact ⟨hvalid, hstored, rfl⟩
    · rintro ⟨hvalid, hstored, rfl⟩
      exact ⟨_, ⟨hvalid, rfl⟩, hstored, rfl⟩

/-- A change of the order that is stored, with its status as it is stored, is stored. -/
theorem run_saveIfStatus {changed : Order} (hstored : d.orders.get? changed.orderId = some order) :
    (ask (.saveIfStatus changed order.status)).run (Desk.answerAt moments) (d, n) =
      (.ok (.ok ()), d.putOrder changed, n + 1) := by
  have hsave : d.saveIfStatus changed order.status = (.ok (), d.putOrder changed) := by
    obtain ⟨hget, -⟩ | ⟨stored, hget, hstatus, -⟩ | ⟨stored, -, -, hsave⟩ :=
      d.saveIfStatus_cases changed order.status
    · cases hget.symm.trans hstored
    · cases hget.symm.trans hstored
      exact absurd rfl hstatus
    · exact hsave
  change (Except.ok (d.saveIfStatus changed order.status).1,
    (d.saveIfStatus changed order.status).2, n + 1) = _
  rw [hsave]

/-- **A change of an order that has been found.** The move is granted and stored, or it is refused
and nothing is. -/
theorem run_updateStatus {actor : Actor} (target : Status) {k : Nat}
    (hfound : (orderFor actor orderId).run (Desk.answerAt moments) (d, n) = (.ok order, d, k))
    (hstored : d.orders.get? order.orderId = some order) :
    (updateStatus orderId target actor).run (Desk.answerAt moments) (d, n) =
      match moved actor order target (moments k).now with
      | .ok changed => (.ok changed.view, d.putOrder changed, k + 3)
      | .error e => (.error (.error (.ofTransition e)), d, k + 2) := by
  have hclock : clock.run (Desk.answerAt moments) (d, k) =
      (.ok (moments k).now, d, k + 1) := rfl
  unfold updateStatus
  rw [run_bind, hfound]
  dsimp only
  rw [run_bind, hclock]
  dsimp only
  cases hmoved : moved actor order target (moments k).now with
  | error e => rfl
  | ok changed =>
    have hterms : changed.orderId = order.orderId := by
      rw [(eq_withStatus_of_moved hmoved).2]
      rfl
    dsimp only
    rw [run_bind, run_saveIfStatus (hterms ▸ hstored)]
    rfl

end Service

/-! ## The call -/

namespace Call

/-- The **reply** to a call that is served on its own. -/
def reply (defaultLimit : Nat) (moments : Nat → Moment) (d : Desk) (call : Call) : Reply :=
  ((call.program defaultLimit).run (Desk.answerAt moments) (d, 0)).1

variable {d : Desk} {order : Order} {orderId : String} {target : Status} {actor : Actor}

/-- The reply to a change of an order on which the actor may act. -/
theorem reply_update_of_found (defaultLimit : Nat) (moments : Nat → Moment) (actor : Actor)
    (target : Status) (hkeyed : d.orders.Keyed fun o => o.orderId)
    (hvalid : OrderId.isValid orderId = true) (hstored : d.orders.get? ⟨orderId⟩ = some order)
    (hmay : actor.MayActOn d order) :
    ∃ now, (update orderId target actor).reply defaultLimit moments d =
      match Service.moved actor order target now with
      | .ok changed => .ok (.order changed.view)
      | .error e => .error (.error (.ofTransition e)) := by
  obtain ⟨k, hfound⟩ : ∃ k, (Service.orderFor actor orderId).run (Desk.answerAt moments) (d, 0) =
      (.ok order, d, k) := ⟨_, Service.run_orderFor_ok_iff.2 ⟨hvalid, hstored, hmay, rfl⟩⟩
  have hkey : order.orderId = ⟨orderId⟩ := hkeyed _ _ hstored
  have hrun := Service.run_updateStatus target hfound (hkey ▸ hstored)
  refine ⟨(moments k).now, ?_⟩
  change ((Service.updateStatus orderId target actor >>= _).run _ _).1 = _
  rw [Service.run_bind, hrun]
  cases Service.moved actor order target (moments k).now <;> rfl

/-- An order that is changed has been found, and the actor may act on it. -/
theorem exists_found_of_reply_update {defaultLimit : Nat} {moments : Nat → Moment}
    {receipt : Receipt}
    (h : (update orderId target actor).reply defaultLimit moments d = .ok receipt) :
    ∃ order, OrderId.isValid orderId = true ∧ d.orders.get? ⟨orderId⟩ = some order ∧
      actor.MayActOn d order := by
  have hrun : (Service.updateStatus orderId target actor >>= fun view => pure (.order view)).run
      (Desk.answerAt moments) (d, 0) = (.ok receipt, _) := Prod.ext h rfl
  obtain ⟨view, between, hupdate, -⟩ := Service.run_bind_ok_iff.1 hrun
  obtain ⟨order, found, hfound, -⟩ := Service.run_bind_ok_iff.1 hupdate
  obtain ⟨hvalid, hstored, hmay, -⟩ := Service.run_orderFor_ok_iff.1 hfound
  exact ⟨order, hvalid, hstored, hmay⟩

/-- **When a change succeeds.** The order ID is one and the order is stored, the actor may act on
the order, and the actor may move an order so. -/
theorem exists_reply_update_iff (defaultLimit : Nat) (moments : Nat → Moment)
    (hkeyed : d.orders.Keyed fun o => o.orderId) :
    (∃ receipt, (update orderId target actor).reply defaultLimit moments d = .ok receipt) ↔
      ∃ order, OrderId.isValid orderId = true ∧ d.orders.get? ⟨orderId⟩ = some order ∧
        actor.MayActOn d order ∧ actor.MayMove order.status target := by
  constructor
  · rintro ⟨receipt, hreply⟩
    obtain ⟨order, hvalid, hstored, hmay⟩ := exists_found_of_reply_update hreply
    obtain ⟨now, hmoved⟩ :=
      reply_update_of_found defaultLimit moments actor target hkeyed hvalid hstored hmay
    refine ⟨order, hvalid, hstored, hmay, (Service.exists_moved_iff now).1 ?_⟩
    rw [hreply] at hmoved
    split at hmoved
    · next changed hchanged => exact ⟨changed, hchanged⟩
    · cases hmoved
  · rintro ⟨order, hvalid, hstored, hmay, hmove⟩
    obtain ⟨now, hmoved⟩ :=
      reply_update_of_found defaultLimit moments actor target hkeyed hvalid hstored hmay
    obtain ⟨changed, hchanged⟩ := (Service.exists_moved_iff now).2 hmove
    exact ⟨_, hmoved.trans (by rw [hchanged])⟩

section Refused

variable {username : String} {user : User}

/-- **What a user who may act on an order is told.** A move that is not in the table is invalid, and
one that is in the table is denied. -/
theorem reply_update_refused {defaultLimit : Nat} {moments : Nat → Moment}
    (hkeyed : d.orders.Keyed fun o => o.orderId) (hvalid : OrderId.isValid orderId = true)
    (huser : d.users.get? ⟨username⟩ = some user) (hstored : d.orders.get? ⟨orderId⟩ = some order)
    (hmay : user.MayActOn order) {e : Failure ServiceError}
    (h : (update orderId target (.user username)).reply defaultLimit moments d = .error e) :
    (order.status.canMoveTo target = false → ∃ message, e = .error (.validation message)) ∧
      (order.status.canMoveTo target = true →
        ∃ message, e = .error (.permissionDenied message)) := by
  obtain ⟨now, hmoved⟩ := reply_update_of_found defaultLimit moments (.user username) target
    hkeyed hvalid hstored ⟨user, huser, hmay⟩
  rw [h] at hmoved
  split at hmoved
  · cases hmoved
  · next refusal hrefused =>
    obtain rfl := Except.error.inj hmoved
    have hpermission := Service.isPermission_of_moved hrefused
    rw [← hpermission, ServiceError.ofTransition]
    constructor
    · intro hfalse
      exact ⟨refusal.message, by rw [hfalse]; rfl⟩
    · intro htrue
      exact ⟨refusal.message, by rw [htrue]; rfl⟩

/-- **What a user who may not act on an order is told.** Whatever is asked for, it is denied. -/
theorem reply_update_denied (defaultLimit : Nat) (moments : Nat → Moment)
    (hvalid : OrderId.isValid orderId = true) (huser : d.users.get? ⟨username⟩ = some user)
    (hstored : d.orders.get? ⟨orderId⟩ = some order) (hmay : ¬user.MayActOn order) :
    ∃ message, (update orderId target (.user username)).reply defaultLimit moments d =
      .error (.error (.permissionDenied message)) := by
  obtain ⟨message, hdenied⟩ :=
    Service.run_ownedOrder_denied moments 0 hvalid huser hstored hmay
  refine ⟨message, ?_⟩
  have hupdate : (Service.updateStatus orderId target (.user username)).run
      (Desk.answerAt moments) (d, 0) = (.error (.error (.permissionDenied message)), d, 2) := by
    unfold Service.updateStatus
    rw [Service.run_bind, Service.orderFor, hdenied]
  change ((Service.updateStatus orderId target (.user username) >>= _).run _ _).1 = _
  rw [Service.run_bind, hupdate]

end Refused

end Call

end OrderDesk
