import OrderDesk.Proofs.Requests
import OrderDesk.Proofs.Traffic.Versions

/-!
# What is asked in traffic

In a run every call asks what it asks whatever it is answered, so the turns of a run are no others.
In particular whoever stores an order in a run may do so.

## Main results

* `OrderDesk.Traffic.asked_play`, `OrderDesk.Traffic.asked_calls` — in every run each call asks
  requests of its own kind only.
* `OrderDesk.Traffic.mayAsk_play` — in every run each call asks only what it may.
* `OrderDesk.Lawful.forall_versions_of_succeeds`, `OrderDesk.Lawful.forall_versions` — what holds of
  all new orders and goes over to the next version, or depends on the terms of an order only, holds
  of all versions.
* `OrderDesk.Traffic.forall_orders_play` — what holds of all orders that are asked to be committed
  holds of all stored ones.
-/

set_option autoImplicit false

namespace OrderDesk

namespace Traffic

/-- In every run each call asks requests of its own kind only. -/
theorem asked_play {α : Type} {P : Nat → Request → Prop} (d : Desk) (calls : List (Program α))
    (hcalls : ∀ (i : Nat) (p : Program α), calls[i]? = some p →
      p.Keeps (Service.only (P i)) (fun _ _ => True) ()) (schedule : List Choice) {turn : Turn}
    (hturn : turn ∈ ((start d calls).play schedule).trace) : P turn.call turn.request := by
  have hhonored := honored_play (fun i _ => P i) (fun _ _ _ => ()) d calls
    (fun i p hp => (hcalls i p hp).weaken (fun _ _ h => h) fun _ _ _ _ _ => trivial) schedule
  obtain ⟨before, rest, hsplit⟩ := List.append_of_mem hturn
  exact hhonored.asked before turn rest hsplit

/-- The same of calls of the service. -/
theorem asked_calls {P : Nat → Request → Prop} (defaultLimit : Nat) (d : Desk) (calls : List Call)
    (hcalls : ∀ (i : Nat) (call : Call), calls[i]? = some call →
      Service.AsksOnly (P i) (call.service defaultLimit)) (schedule : List Choice) {turn : Turn}
    (hturn : turn ∈ ((start d (calls.map (Call.program defaultLimit))).play schedule).trace) :
    P turn.call turn.request := by
  refine asked_play d _ (fun i p hp => ?_) schedule hturn
  rw [List.getElem?_map, Option.map_eq_some_iff] at hp
  obtain ⟨call, hcall, rfl⟩ := hp
  exact hcalls i call hcall

/-- In every run each call asks only what it may. -/
theorem mayAsk_play (defaultLimit : Nat) (d : Desk) (calls : List Call)
    (schedule : List Choice) {turn : Turn}
    (hturn : turn ∈ ((start d (calls.map (Call.program defaultLimit))).play schedule).trace) :
    ∃ call, calls[turn.call]? = some call ∧ call.MayAsk turn.request :=
  asked_calls (P := fun i request => ∃ call, calls[i]? = some call ∧ call.MayAsk request)
    defaultLimit d calls
    (fun _ call hcall => (call.asksOnly_mayAsk defaultLimit).mono fun _ h => ⟨call, hcall, h⟩)
    schedule hturn

end Traffic

/-- What holds of all orders that are new, and of those that were stored at first, and goes over to
the next version holds of all versions.

**Proof sketch.** Induction on the record. A change that is stored is the next version of the one
that it replaces. -/
theorem Lawful.forall_versions_of_succeeds {d : Desk} {trace : List Turn} {P : Order → Prop}
    (hnext : ∀ a b, Order.Succeeds a b → P a → P b) (hd : d.orders.Keyed fun o => o.orderId)
    (hfirst : ∀ orderId order, d.orders.get? orderId = some order → P order)
    (h : Lawful d trace)
    (hnew : ∀ turn ∈ trace, ∀ side order settlement,
      turn.toExchange = ⟨.commit side order, .ok settlement⟩ → P order) :
    ∀ orderId, ∀ version ∈ versions d trace orderId, P version := by
  induction h with
  | nil =>
    intro orderId version hversion
    refine hfirst orderId version ?_
    simpa [versions] using hversion
  | @snoc trace turn before may fits ih =>
    have hbefore := ih fun turn hturn => hnew turn (List.mem_append_left _ hturn)
    intro orderId version hversion
    rw [versions_concat] at hversion
    rcases List.mem_append.1 hversion with hversion | hlast
    · exact hbefore orderId version hversion
    · obtain ⟨hstored, -⟩ := Option.filter_eq_some_iff.1 (Option.mem_toList.1 hlast)
      obtain ⟨expected, order, -, hp, hlatest⟩ | ⟨side, settlement, hx, -⟩ :=
        before.stored_cases hd (before.isChain_versions hd) may fits hstored
      · exact hnext order version hp.succeeds (hbefore _ order (List.mem_of_getLast? hlatest))
      · exact hnew turn (by simp) side version settlement hx

/-- What holds of all orders that are new, and of those that were stored at first, and depends on
the terms of an order only, holds of all versions. -/
theorem Lawful.forall_versions {d : Desk} {trace : List Turn} {P : Order → Prop}
    (hterms : ∀ a b, Order.SameTerms a b → P a → P b) (hd : d.orders.Keyed fun o => o.orderId)
    (hfirst : ∀ orderId order, d.orders.get? orderId = some order → P order)
    (h : Lawful d trace)
    (hnew : ∀ turn ∈ trace, ∀ side order settlement,
      turn.toExchange = ⟨.commit side order, .ok settlement⟩ → P order) :
    ∀ orderId, ∀ version ∈ versions d trace orderId, P version :=
  h.forall_versions_of_succeeds (fun a b hab => hterms a b hab.terms) hd hfirst hnew

/-- On a desk that starts without orders, what holds of all orders that calls ask to be committed,
and depends on the terms of an order only, holds of all stored orders. -/
theorem Traffic.forall_orders_play {P : Order → Prop}
    (hterms : ∀ a b, Order.SameTerms a b → P a → P b) (defaultLimit : Nat) (d : Desk)
    (hempty : d.orders = .empty) (calls : List Call) (schedule : List Choice)
    (hnew : ∀ turn ∈ ((start d (calls.map (Call.program defaultLimit))).play schedule).trace,
      ∀ side order, turn.request = .commit side order → P order)
    {orderId : OrderId} {order : Order}
    (hget : ((start d (calls.map (Call.program defaultLimit))).play
      schedule).desk.orders.get? orderId = some order) :
    order.orderId = orderId ∧ P order := by
  have hkeyed : d.orders.Keyed fun o => o.orderId := by
    rw [hempty]
    exact Table.keyed_empty
  have hrecorded := recorded_play defaultLimit d calls schedule
  rw [← orders_settled, hrecorded.current] at hget
  have hversion := List.mem_of_getLast? hget
  refine ⟨orderId_of_mem_versions hkeyed hversion, ?_⟩
  refine hrecorded.lawful.forall_versions hterms hkeyed ?_ ?_ orderId order hversion
  · intro orderId order hfirst
    rw [hempty] at hfirst
    cases hfirst
  · intro turn hturn side order settlement hx
    exact hnew turn hturn side order (congrArg Exchange.request hx)

end OrderDesk
