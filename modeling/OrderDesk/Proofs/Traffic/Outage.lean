import OrderDesk.Proofs.Outage
import OrderDesk.Proofs.Traffic.Asked

/-!
# Outages in traffic

The desk fails in two ways only: the balance lock is not had in time, or the order ID of a new order
is taken. However many calls are served at the same time, whoever is told that the service is not
available has met one of the two.

## Main definitions

* `OrderDesk.Turn.IsFault` — a turn in which the desk may fail.

## Main results

* `OrderDesk.Desk.fault_of_fails` — how the desk fails.
* `OrderDesk.Traffic.answered_play` — every turn is answered from the latest versions.
* `OrderDesk.Traffic.internal_play` — no internal error without a fault.
-/

set_option autoImplicit false

namespace OrderDesk

/-! ## Failures of the desk -/

/-- **How the desk fails.** Unless the value of an order has a minus sign, a request fails only if
it needs the balance lock and does not have it in time, or if it commits an order whose order ID is
taken. -/
theorem Desk.fault_of_fails {m : Moment} {request : Request} {d : Desk}
    (hsign : request.IsUnsigned) (h : request.fails (answer m request d).1 = true) :
    (request.UsesLock ∧ m.stalled ≠ none) ∨
      ∃ side order, request = .commit side order ∧ d.orders.get? order.orderId ≠ none := by
  cases request with
  | clock | token | findUser | findAsset | findOrder | ordersOf | log => cases h
  | findBalance username =>
    refine .inl ⟨trivial, fun hfree => ?_⟩
    simp [answer, readBalance, hfree, Request.fails, Request.cause?] at h
  | saveIfStatus changed expected =>
    -- an order that is not there or has moved on is no failure behind the service
    obtain ⟨-, he⟩ | ⟨_, -, -, he⟩ | ⟨_, -, -, he⟩ := d.saveIfStatus_cases changed expected
    · rw [show answer m (.saveIfStatus changed expected) d = _ from he] at h
      cases h
    · rw [show answer m (.saveIfStatus changed expected) d = _ from he] at h
      cases h
    · rw [show answer m (.saveIfStatus changed expected) d = _ from he] at h
      cases h
  | commit side order =>
    by_cases hfree : m.stalled = none
    · refine .inr ⟨side, order, rfl, fun hnew => ?_⟩
      have hpersist : d.persist order = .ok (d.putOrder order) :=
        d.persist_eq_ok_iff.2 ⟨hnew, rfl⟩
      change Request.fails (.commit side order) (d.commit m side order).1 = true at h
      simp only [commit, settle, hfree, hpersist] at h
      cases hcharge : charge side (d.balanceOf order.username m.now) order.totalAmount m.now with
      | ok balance =>
        rw [hcharge] at h
        cases h
      | error e =>
        rw [hcharge] at h
        cases e with
        | sumOverflow => cases h
        | error e => cases (isOutage_of_charge hsign hcharge).symm.trans h
    · exact .inl ⟨trivial, hfree⟩

/-- A turn is a **fault** if the balance lock is not had in time, or if the order ID of a new order
is taken when it is to be stored. -/
inductive Turn.IsFault (d : Desk) (before : List Turn) (turn : Turn) : Prop where
  | timeout (huses : turn.request.UsesLock) (hstalled : turn.moment.stalled ≠ none)
  | collision {side : Side} {order : Order} (hasks : turn.request = .commit side order)
      (htaken : versions d before order.orderId ≠ [])

/-- It is noted for a call that something has failed exactly if it has in one of its turns. -/
theorem record_noteFailure (trace : List Turn) (call : Nat) :
    record Request.noteFailure false trace call =
      (trace.filter (·.call = call)).any fun turn => turn.request.fails turn.answer := by
  unfold record
  induction trace.filter (·.call = call) using List.reverseRecOn with
  | nil => rfl
  | append_singleton turns last ih =>
    rw [List.foldl_append, ih, List.any_append, List.any_cons, List.any_nil, Bool.or_false]
    rfl

namespace Traffic

/-! ## Failures in a run -/

/-- Every turn of a run is answered by a desk that stores the latest versions at the time. -/
theorem answered_play (defaultLimit : Nat) (d : Desk) (calls : List Call) (schedule : List Choice)
    {before rest : List Turn} {turn : Turn}
    (h : ((start d (calls.map (Call.program defaultLimit))).play schedule).trace =
      before ++ turn :: rest) :
    ∃ desk : Desk, turn.answer = (Desk.answer turn.moment turn.request desk).1 ∧
      ∀ orderId, desk.orders.get? orderId = (versions d before orderId).getLast? := by
  induction schedule using List.reverseRecOn generalizing before turn rest with
  | nil => simp [start, play] at h
  | append_singleton schedule c ih =>
    rw [play_concat] at h
    obtain hrests | ⟨last, next, htakes, -⟩ | ⟨_, _, -, -, -, htrace⟩ :=
      step_cases (locked_play d _ schedule) c
    · exact ih (hrests.trace ▸ h)
    · rw [htakes.trace] at h
      obtain ⟨rfl, rfl⟩ | ⟨rest, hearlier⟩ := Turn.split_concat h
      · exact ⟨_, htakes.answer, (recorded_play defaultLimit d calls schedule).current⟩
      · exact ih hearlier
    · exact ih (htrace ▸ h)

/-- **No internal error without a fault.** Whatever calls are served at the same time, in whatever
order they go on, and whatever happens to users, assets and balances in between: a call that ends
with an internal error has had a turn of its own in which the balance lock was not had in time or
the order ID of its order was taken. In particular no balance ever refuses the amount of an order
that is committed, whatever the balance is by then.

**Proof sketch.** A call ends with an internal error only if something has failed in one of its
turns. The turn has been answered by a desk, and the amount that it commits, if it does, has no
minus sign. So the desk has failed for one of the two reasons. -/
theorem internal_play (defaultLimit : Nat) (d : Desk) (calls : List Call)
    (schedule : List Choice) :
    let s := (start d (calls.map (Call.program defaultLimit))).play schedule
    (∀ i e, s.replies[i]? = some (some (.error (.error e))) → e.category = .internal →
      ∃ before turn rest, s.trace = before ++ turn :: rest ∧ turn.call = i ∧
        turn.IsFault d before) ∧
    ∀ turn ∈ s.trace, ∀ side order, turn.request = .commit side order →
      ∀ balance now detail, Desk.charge side balance order.totalAmount now ≠
        .error (.error (.databaseOperation detail)) := by
  intro s
  have hunsigned : ∀ turn ∈ s.trace, turn.request.IsUnsigned := fun _ =>
    asked_calls (P := fun _ => Request.IsUnsigned) defaultLimit d calls
      (fun _ call _ => call.asksOnly_isUnsigned defaultLimit) schedule
  have hcandid := honored_calls (fun _ _ _ => True) Request.noteFailure defaultLimit d calls
    (fun _ call _ => call.keeps_outages defaultLimit) schedule
  constructor
  · intro i e hreply hinternal
    have htold : isInternal (.error (.error e) : Reply) = true := decide_eq_true hinternal
    have hfailed := (hcandid.ended hreply).symm.trans htold
    rw [record_noteFailure, List.any_eq_true] at hfailed
    obtain ⟨turn, hown, hfails⟩ := hfailed
    obtain ⟨hturn, hcall⟩ := List.mem_filter.1 hown
    obtain ⟨before, rest, hsplit⟩ := List.append_of_mem hturn
    refine ⟨before, turn, rest, hsplit, of_decide_eq_true hcall, ?_⟩
    obtain ⟨desk, hanswer, hstored⟩ := answered_play defaultLimit d calls schedule hsplit
    rw [hanswer] at hfails
    obtain ⟨huses, hstalled⟩ | ⟨side, order, hasks, htaken⟩ :=
      Desk.fault_of_fails (hunsigned turn hturn) hfails
    · exact .timeout huses hstalled
    · refine .collision hasks fun hnone => htaken ?_
      rw [hstored, hnone, List.getLast?_nil]
  · intro turn hturn side order hasks balance now detail hrefused
    have hsign := hunsigned turn hturn
    rw [hasks] at hsign
    cases Desk.isOutage_of_charge hsign hrefused

/-- Alice places two orders at the same time, and somebody else keeps the balance lock when the
second one is to be committed. The first one is stored, and the second call ends with an internal
error, for which there has been a fault in one of its own turns. -/
theorem internal_of_stalled_commit :
    let form : OrderForm :=
      { username := "alice", orderType := .marketBuy, assetId := "btc", quantity := 1,
        orderPrice := none, expiresAt := none }
    let stalled : Moment := { Moment.small 20 with stalled := some 5000 }
    let schedule : List Choice :=
      ((List.range 7).flatMap fun n => [.turn 0 (.small n), .turn 1 (.small (n + 10))]) ++
        [.turn 1 stalled] ++
        (List.range 6).flatMap fun n => [.turn 0 (.small n), .turn 1 (.small n)]
    let calls : List Call := [.place form, .place form]
    let s := (start Desk.small (calls.map (Call.program 50))).play schedule
    s.desk.orders.values.length = 1 ∧
      s.replies[1]? = some (some (.error (.error .unavailable))) ∧
      ∃ before turn rest, s.trace = before ++ turn :: rest ∧ turn.call = 1 ∧
        turn.IsFault Desk.small before := by
  intro form stalled schedule calls s
  have hreply : s.replies[1]? = some (some (.error (.error .unavailable))) := by decide +kernel
  have hfault := (internal_play 50 Desk.small calls schedule).1 1 _ hreply rfl
  exact ⟨by decide +kernel, hreply, hfault⟩

end Traffic

end OrderDesk
