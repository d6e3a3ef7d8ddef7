import OrderDesk.Proofs.Authority
import OrderDesk.Proofs.Traffic.Asked

/-!
# Authority in traffic

Whoever changes the status of an order has looked the order up before, and other calls may have gone
on since. Nevertheless users never get further than a change that is asked for on its own: a stored
order that changes its status is moved by the system, or it is cancelled while users may cancel it.

## Main results

* `OrderDesk.Traffic.exists_turn_of_status_ne` — a step in which a stored order changes its status
  is the turn in which a call stores the change.
* `OrderDesk.Traffic.mover_play` — in every run the call is the system's, or it cancels the order.
* `OrderDesk.Traffic.change_authority` — who may change the status of an order, on their own and in
  every run, and what the others are told.
-/

set_option autoImplicit false

namespace OrderDesk.Traffic

variable {d : Desk}

/-- A step in which a stored order changes its status is a turn of a call that has loaded the order
as it is stored, and that replaces it. -/
theorem exists_turn_of_status_ne {calls : List Call} {s : Traffic Reply}
    (hkeyed : d.orders.Keyed fun o => o.orderId) (hrecorded : Recorded d calls s)
    (hlocked : s.Locked) {choice : Choice} {orderId : OrderId} {before after : Order}
    (hbefore : s.desk.orders.get? orderId = some before)
    (hafter : (s.step choice).desk.orders.get? orderId = some after)
    (hmoved : after.status ≠ before.status) :
    ∃ turn, choice = .turn turn.call turn.moment ∧ (s.step choice).trace = s.trace ++ [turn] ∧
      turn.toExchange = ⟨.saveIfStatus after before.status, .ok ()⟩ ∧
      (progress s.trace turn.call).loaded = some (orderId, before) := by
  have hnext := hrecorded.step hlocked choice
  rw [← orders_settled, hrecorded.current] at hbefore
  rw [← orders_settled, hnext.current] at hafter
  have hstill : (s.step choice).trace ≠ s.trace := by
    intro htrace
    rw [htrace, hbefore] at hafter
    cases hafter
    exact hmoved rfl
  obtain hrests | ⟨turn, next, htakes, hbelongs⟩ | ⟨_, _, -, -, -, htrace⟩ :=
    step_cases hlocked choice
  · exact absurd hrests.trace hstill
  · rw [htakes.trace, versions_concat, List.getLast?_append] at hafter
    obtain ⟨-, hmay, hfits⟩ := (htakes.trace ▸ hnext.lawful).split
    cases hstored : turn.stored?.filter (·.orderId = orderId) with
    | none =>
      rw [hstored] at hafter
      cases hbefore.symm.trans hafter
      exact absurd rfl hmoved
    | some version =>
      rw [hstored] at hafter
      obtain rfl : version = after := Option.some.inj hafter
      obtain ⟨hversion, hid⟩ := Option.filter_eq_some_iff.1 hstored
      obtain rfl : version.orderId = orderId := of_decide_eq_true hid
      have hchain := hrecorded.lawful.isChain_versions hkeyed
      obtain ⟨expected, order, hx, hprepared, hlast⟩ | ⟨_, _, -, hnil⟩ :=
        hrecorded.lawful.stored_cases hkeyed hchain hmay hfits hversion
      · obtain rfl : before = order := Option.some.inj (hbefore.symm.trans hlast)
        obtain rfl := hprepared.status
        refine ⟨turn, ?_, htakes.trace, hx, hprepared.loaded⟩
        obtain hchoice | ⟨balance, hcharged⟩ := hbelongs
        · exact hchoice
        · -- who has the balance lock is about to commit
          obtain ⟨_, _, _, hcommits, -⟩ := hlocked _ _ _ hcharged
          have hcommit : turn.request = .commit _ _ :=
            (Program.ask.inj (Option.some.inj (htakes.asked.symm.trans hcommits))).1
          cases hcommit.symm.trans (congrArg Exchange.request hx)
      · rw [hnil] at hbefore
        cases hbefore
  · exact absurd htrace hstill

/-- **Who moves a stored order.** In every run a step in which a stored order changes its status is
the turn of a call. The call is the system's update of this order to the new status, or it cancels
an order that users may cancel.

**Proof sketch.** The call has looked the order up before, and what it has asked since it may ask
whatever it has been answered. The change replaces the order that is stored. -/
theorem mover_play (defaultLimit : Nat) (hkeyed : d.orders.Keyed fun o => o.orderId)
    (calls : List Call) (schedule : List Choice) (choice : Choice) {orderId : OrderId}
    {before after : Order}
    (hbefore : ((start d (calls.map (Call.program defaultLimit))).play
      schedule).desk.orders.get? orderId = some before)
    (hafter : (((start d (calls.map (Call.program defaultLimit))).play
      schedule).step choice).desk.orders.get? orderId = some after)
    (hmoved : after.status ≠ before.status) :
    ∃ call moment, choice = .turn call moment ∧
      (calls[call]? = some (.update orderId.text after.status .system) ∨
        after.IsUserCancellation before.status) := by
  have hrecorded := recorded_play defaultLimit d calls schedule
  obtain ⟨turn, hchoice, htrace, hx, hloaded⟩ := exists_turn_of_status_ne hkeyed hrecorded
    (locked_play d _ schedule) hbefore hafter hmoved
  obtain ⟨earlier, load, later, hearlier, hcall, hload, -⟩ := hrecorded.lawful.load hloaded
  have hmay : ∀ other ∈ (((start d (calls.map (Call.program defaultLimit))).play
      schedule).step choice).trace, ∃ call, calls[other.call]? = some call ∧
        call.MayAsk other.request := by
    rw [← play_concat]
    exact fun _ => mayAsk_play defaultLimit d calls (schedule ++ [choice])
  obtain ⟨call, hget, hchange⟩ := hmay turn (by rw [htrace]; simp)
  obtain ⟨call', hget', hfind⟩ := hmay load (by rw [htrace, hearlier]; simp)
  obtain rfl : call = call' := Option.some.inj (hget.symm.trans (hcall ▸ hget'))
  rw [Exchange.request_of_loaded? hload] at hfind
  rw [show turn.request = _ from congrArg Exchange.request hx] at hchange
  refine ⟨turn.call, turn.moment, hchoice, ?_⟩
  obtain hcancellation | rfl := hfind.change hchange
  · exact .inr hcancellation
  · exact .inl hget

/-- **Authority over changes of status.** A change that is asked for on its own succeeds exactly if
the order ID is one, the order is stored, and either the system asks for a move of the table or a
user who may act on the order cancels it while it is pending or confirmed. If it fails although the
order is stored under an order ID, a user who may act on the order is told that the move is invalid
if it is not in the table, and that it is not permitted otherwise. A user who may not act on the
order is told that this is not permitted. In every run each step in which a stored order changes its
status is a turn of the system's own update, or it cancels an order that was pending or
confirmed. -/
theorem change_authority (defaultLimit : Nat) (d : Desk)
    (hkeyed : d.orders.Keyed fun o => o.orderId) :
    (∀ (moments : Nat → Moment) (orderId : String) (target : Status) (actor : Actor),
      (∃ receipt, (Call.update orderId target actor).reply defaultLimit moments d = .ok receipt) ↔
        ∃ order, OrderId.isValid orderId = true ∧ d.orders.get? ⟨orderId⟩ = some order ∧
          actor.MayActOn d order ∧ actor.MayMove order.status target) ∧
    (∀ (moments : Nat → Moment) (orderId : String) (target : Status) (username : String)
        (user : User) (order : Order),
      OrderId.isValid orderId = true → d.orders.get? ⟨orderId⟩ = some order →
      d.users.get? ⟨username⟩ = some user →
      let reply := (Call.update orderId target (.user username)).reply defaultLimit moments d
      (user.MayActOn order → ∀ e, reply = .error e →
        ((∃ message, e = .error (.validation message)) ↔ order.status.canMoveTo target = false) ∧
        ((∃ message, e = .error (.permissionDenied message)) ↔
          order.status.canMoveTo target = true)) ∧
      (¬user.MayActOn order → ∃ message, reply = .error (.error (.permissionDenied message)))) ∧
    ∀ (calls : List Call) (schedule : List Choice) (choice : Choice) (orderId : OrderId)
        (before after : Order),
      let s := (start d (calls.map (Call.program defaultLimit))).play schedule
      s.desk.orders.get? orderId = some before →
      (s.step choice).desk.orders.get? orderId = some after →
      after.status ≠ before.status →
      ∃ call moment, choice = .turn call moment ∧
        (calls[call]? = some (.update orderId.text after.status .system) ∨
          after.status = .cancelled ∧ (before.status = .pending ∨ before.status = .confirmed)) := by
  refine ⟨?_, ?_, ?_⟩
  · intro moments orderId target actor
    exact Call.exists_reply_update_iff defaultLimit moments hkeyed
  · intro moments orderId target username user order hvalid hstored huser
    refine ⟨fun hmay e herror => ?_, fun hmay => ?_⟩
    · obtain ⟨hoff, hon⟩ := Call.reply_update_refused hkeyed hvalid huser hstored hmay herror
      cases hmove : order.status.canMoveTo target with
      | false =>
        obtain ⟨message, rfl⟩ := hoff hmove
        simp
      | true =>
        obtain ⟨message, rfl⟩ := hon hmove
        simp
    · exact Call.reply_update_denied defaultLimit moments hvalid huser hstored hmay
  · intro calls schedule choice orderId before after s hbefore hafter hmoved
    obtain ⟨call, moment, hchoice, hmover⟩ :=
      mover_play defaultLimit hkeyed calls schedule choice hbefore hafter hmoved
    exact ⟨call, moment, hchoice, hmover.imp_right (And.imp_right Status.canUserCancel_iff.1)⟩

/-- Alice may cancel her order, and she is denied its confirmation. Bob is denied whatever he asks
for. In a run the system confirms the order. -/
theorem change_authority_of_small :
    let bob : User := { username := ⟨"bob"⟩, role := .customer, isActive := true }
    let d := (Desk.small.putOrder .small).putUser bob
    let orderId := "ord_1700000000_abcd1234_alice"
    let reply (target : Status) (actor : Actor) : Reply :=
      (Call.update orderId target actor).reply 50 .small d
    let calls : List Call := [.update orderId .confirmed .system]
    let s := (start d (calls.map (Call.program 50))).play [.turn 0 (.small 0), .turn 0 (.small 1)]
    (∃ receipt, reply .cancelled (.user "alice") = .ok receipt) ∧
      (∃ e, reply .confirmed (.user "alice") = .error e ∧
        ∃ message, e = .error (.permissionDenied message)) ∧
      (∃ message, reply .cancelled (.user "bob") = .error (.error (.permissionDenied message))) ∧
      ∃ after, (s.step (.turn 0 (.small 2))).desk.orders.get? ⟨orderId⟩ = some after ∧
        ∃ call moment, Choice.turn 0 (.small 2) = .turn call moment ∧
          (calls[call]? = some (.update orderId after.status .system) ∨
            after.status = .cancelled ∧
              (Order.small.status = .pending ∨ Order.small.status = .confirmed)) := by
  intro bob d orderId reply calls s
  have hkeyed : d.Keyed := (Desk.keyed_small.putOrder .small).putUser bob
  obtain ⟨hsucceeds, htold, hrun⟩ := change_authority 50 d hkeyed.orders
  have hvalid : OrderId.isValid orderId = true := by decide +kernel
  have hstored : d.orders.get? ⟨orderId⟩ = some .small := by decide
  let alice : User := { username := ⟨"alice"⟩, role := .customer, isActive := true }
  have halice : d.users.get? ⟨"alice"⟩ = some alice := by decide
  have hbob : d.users.get? ⟨"bob"⟩ = some bob := by decide
  have hmay : alice.MayActOn .small := ⟨rfl, .inr rfl⟩
  have hmaynot : ¬bob.MayActOn .small := fun h => absurd h.adminOrOwner (by decide)
  refine ⟨?_, ?_, ?_, ?_⟩
  · exact (hsucceeds .small orderId .cancelled (.user "alice")).2
      ⟨.small, hvalid, hstored, ⟨alice, halice, hmay⟩, rfl, .inl rfl⟩
  · have hreply : reply .confirmed (.user "alice") =
        .error (.error (.permissionDenied "Only system can mark orders as confirmed")) := by
      decide +kernel
    refine ⟨_, hreply, ?_⟩
    exact (((htold .small orderId .confirmed "alice" alice .small hvalid hstored halice).1 hmay _
      hreply).2).2 (by decide)
  · exact (htold .small orderId .cancelled "bob" bob .small hvalid hstored hbob).2 hmaynot
  · have hbefore : s.desk.orders.get? ⟨orderId⟩ = some .small := by decide +kernel
    have hafter : (s.step (.turn 0 (.small 2))).desk.orders.get? ⟨orderId⟩ =
        some (Order.small.withStatus .confirmed (.ofSeconds 1700000001)) := by
      decide +kernel
    exact ⟨_, hafter,
      hrun calls _ (.turn 0 (.small 2)) ⟨orderId⟩ .small _ hbefore hafter (by decide)⟩

/-- An order that is stored under a text that is no order ID. Alice, who owns it, may act on it, and
its confirmation is in the table; but what she is told is about the order ID. -/
theorem change_of_invalid_id :
    let order : Order := { Order.small with orderId := ⟨"x"⟩ }
    let alice : User := { username := ⟨"alice"⟩, role := .customer, isActive := true }
    let d := Desk.small.putOrder order
    d.Keyed ∧ d.users.get? ⟨"alice"⟩ = some alice ∧ d.orders.get? ⟨"x"⟩ = some order ∧
      alice.MayActOn order ∧ order.status.canMoveTo .confirmed = true ∧
      (Call.update "x" .confirmed (.user "alice")).reply 50 .small d = .error (.error (.validation
        "Invalid order ID format: expected at least 3 parts separated by '_'")) := by
  intro order alice d
  exact ⟨Desk.keyed_small.putOrder order, by decide, by decide, ⟨rfl, .inr rfl⟩, by decide,
    by decide +kernel⟩

end OrderDesk.Traffic
