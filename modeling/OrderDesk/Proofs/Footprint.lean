import OrderDesk.Proofs.Traffic.Versions

/-!
# The footprint of a call

A call that is served on its own changes the desk as its receipt says, and no further. A call that
ends with an error has changed nothing, wherever in its course the error came up.

## Main definitions

* `OrderDesk.Desk.answerAt` — the desk, with the circumstances of each request.
* `OrderDesk.Call.Footprint` — what a call leaves of the desk.

## Main results

* `OrderDesk.Call.footprint_run` — every call has its footprint.
* `OrderDesk.Traffic.terms_play` — in every run a stored order stays stored, on the same terms.
-/

set_option autoImplicit false

namespace OrderDesk

/-! ## One call on its own -/

/-- The desk answers the requests of the service, each at a moment of its own. -/
def Desk.answerAt (moments : Nat → Moment) : Handler (Desk × Nat) :=
  fun request (d, n) =>
    let (answer, d) := Desk.answer (moments n) request d
    (answer, d, n + 1)

/-- The footprint of a change of status: one order has another status and another last update. -/
def Desk.Moves (d : Desk) (orderId : String) (target : Status) (receipt : Receipt) (d' : Desk) :
    Prop :=
  ∃ order now, d.orders.get? ⟨orderId⟩ = some order ∧
    d' = { d with orders := d.orders.put ⟨orderId⟩ (order.withStatus target now) } ∧
    receipt = .order (order.withStatus target now).view

/-- The footprint of a new order: an order under an order ID that was not taken, and the balance of
its owner, which has been charged with the value of the order. -/
def Desk.Gains (d : Desk) (form : OrderForm) (receipt : Receipt) (d' : Desk) : Prop :=
  ∃ order balance now, form.Places order ∧ d.orders.get? order.orderId = none ∧
    Desk.charge order.side (d.balanceOf order.username now) order.totalAmount now = .ok balance ∧
    d' = { d with
      orders := d.orders.put order.orderId order
      balances := d.balances.put order.username balance } ∧
    receipt = .order order.view

/-- The **footprint** of a call: what it leaves of a desk, by its reply. -/
def Call.Footprint : Call → Desk → Reply → Desk → Prop
  | _, d, .error _, d' => d' = d
  | place form, d, .ok receipt, d' => d.Gains form receipt d'
  | cancel _ orderId, d, .ok receipt, d' => d.Moves orderId .cancelled receipt d'
  | update orderId target _, d, .ok receipt, d' => d.Moves orderId target receipt d'
  | order .., d, .ok _, d' | orders _, d, .ok _, d' => d' = d

/-! ## From the progress to the footprint -/

/-- The desk that the change of a call has left. -/
def Effect.Leaves (d : Desk) : Option Effect → Desk → Prop
  | none, d' => d' = d
  | some (.replaced changed _), d' => d' = d.putOrder changed
  | some (.settled side order settlement), d' =>
    d.orders.get? order.orderId = none ∧ settlement.order = order ∧
      (∃ now, Desk.charge side (d.balanceOf order.username now) order.totalAmount now =
        .ok settlement.balance) ∧
      d' = (d.putOrder order).putBalance settlement.balance

/-- The desk agrees with the progress of the one call that is served. -/
structure Tracks (d : Desk) (p : Progress) (d' : Desk) : Prop where
  loaded : ∀ orderId order, p.loaded = some (orderId, order) →
    d.orders.get? orderId = some order
  effect : Effect.Leaves d p.effect d'

namespace Tracks

variable {d d' : Desk} {p : Progress}

/-- Nothing has happened yet. -/
theorem start (d : Desk) : Tracks d .start d := by
  refine ⟨?_, rfl⟩
  rintro _ _ ⟨⟩

/-- As long as a call has not changed anything, the desk is as it was. -/
theorem eq_of_effect (h : Tracks d p d') (he : p.effect = none) : d' = d := by
  have hleaves := h.effect
  rwa [he] at hleaves

/-- An answer agrees with the progress that it brings. -/
theorem answer (h : Tracks d p d') (m : Moment) (request : Request) (hmay : p.May request) :
    Tracks d (p.after request (Desk.answer m request d').1) (Desk.answer m request d').2 := by
  cases request with
  | clock | token | findUser | findAsset | findBalance | ordersOf | log => exact h
  | findOrder orderId =>
    obtain rfl : p = .start := hmay
    obtain rfl := h.eq_of_effect rfl
    cases hget : d'.orders.get? orderId with
    | none => simpa [Desk.answer, hget, Progress.after] using h
    | some order =>
      simp only [Desk.answer, hget, Progress.after]
      refine ⟨?_, rfl⟩
      rintro _ _ ⟨⟩
      exact hget
  | saveIfStatus changed expected =>
    obtain rfl := h.eq_of_effect hmay.1
    obtain ⟨-, he⟩ | ⟨_, -, -, he⟩ | ⟨_, -, -, he⟩ := d'.saveIfStatus_cases changed expected
    · simpa [Desk.answer, he, Progress.after] using h
    · simpa [Desk.answer, he, Progress.after] using h
    · simp only [Desk.answer, he, Progress.after]
      exact ⟨h.loaded, rfl⟩
  | commit side order =>
    obtain rfl : p = .start := hmay.1
    obtain rfl := h.eq_of_effect rfl
    obtain ⟨e, he⟩ | ⟨balance, -, hcharge, hnew, he⟩ := d'.commit_cases m side order
    · simpa [Desk.answer, he, Progress.after] using h
    · simp only [Desk.answer, he, Progress.after]
      refine ⟨?_, hnew, rfl, ⟨m.now, hcharge⟩, rfl⟩
      rintro _ _ ⟨⟩

/-- A moved order has been replaced, and nothing else. -/
theorem moves (hd : d.Keyed) (h : Tracks d p d') {orderId : String} {target : Status}
    {receipt : Receipt} (hm : p.Moved orderId target receipt) :
    d.Moves orderId target receipt d' := by
  obtain ⟨order, now, hloaded, -, heffect, rfl⟩ := hm
  have hget := h.loaded _ _ hloaded
  have hleaves := h.effect
  rw [heffect] at hleaves
  refine ⟨order, now, hget, ?_, rfl⟩
  rw [hleaves, ← hd.orders _ _ hget]
  rfl

/-- A placed order has been added together with the balance of its owner, and nothing else. -/
theorem gains (hd : d.Keyed) (h : Tracks d p d') {form : OrderForm} {receipt : Receipt}
    (hp : p.Placed form receipt) : d.Gains form receipt d' := by
  obtain ⟨order, settlement, hplaces, heffect, rfl⟩ := hp
  have hleaves := h.effect
  rw [heffect] at hleaves
  obtain ⟨hnew, horder, ⟨now, hcharge⟩, rfl⟩ := hleaves
  have hname : settlement.balance.username = order.username := by
    rw [Desk.username_of_charge hcharge, Desk.username_balanceOf hd.balances]
  refine ⟨order, settlement.balance, now, hplaces, hnew, hcharge, ?_, by rw [horder]⟩
  rw [← hname]
  rfl

/-- The progress with which a call ends has its footprint. -/
theorem footprint (hd : d.Keyed) (h : Tracks d p d') {call : Call} {reply : Reply}
    (hends : call.Ends p reply) : call.Footprint d reply d' := by
  match call, reply with
  | .place _, .error _ | .cancel .., .error _ | .update .., .error _ | .order .., .error _
  | .orders _, .error _ => exact h.eq_of_effect hends
  | .place form, .ok receipt => exact h.gains hd hends
  | .cancel _ orderId, .ok receipt => exact h.moves hd hends
  | .update orderId target _, .ok receipt => exact h.moves hd hends
  | .order .., .ok receipt | .orders _, .ok receipt => exact h.eq_of_effect hends

end Tracks

/-- A call that is served on its own has its footprint.

**Proof sketch.** Whatever is answered, the call keeps to its conduct. The desk agrees with the
progress of the call before and after each answer, so it does at the end. -/
theorem Call.footprint_run (defaultLimit : Nat) {d : Desk} (hd : d.Keyed) (call : Call)
    (moments : Nat → Moment) :
    call.Footprint d ((call.program defaultLimit).run (Desk.answerAt moments) (d, 0)).1
      ((call.program defaultLimit).run (Desk.answerAt moments) (d, 0)).2.1 := by
  obtain ⟨p, hends, htracks⟩ := (call.keeps_conduct defaultLimit).run
    (h := Desk.answerAt moments) (R := fun p (state : Desk × Nat) => Tracks d p state.1)
    (fun p state request htracks hmay => ⟨_, rfl, htracks.answer _ request hmay⟩)
    (t := (d, 0)) (Tracks.start d)
  exact htracks.footprint hd hends

/-! ## Orders in every run -/

/-- In every run a stored order stays stored, on the same terms. -/
theorem Traffic.terms_play (defaultLimit : Nat) {d : Desk} (hd : d.Keyed) (calls : List Call)
    (schedule more : List Choice) {orderId : OrderId} {order : Order}
    (hget : ((start d (calls.map (Call.program defaultLimit))).play
      schedule).desk.orders.get? orderId = some order) :
    ∃ later, ((start d (calls.map (Call.program defaultLimit))).play
      (schedule ++ more)).desk.orders.get? orderId = some later ∧ Order.SameTerms order later := by
  have hthen := recorded_play defaultLimit d calls schedule
  have hnow := recorded_play defaultLimit d calls (schedule ++ more)
  obtain ⟨turns, hturns⟩ := exists_trace_play
    (locked_play d (calls.map (Call.program defaultLimit)) schedule) more
  rw [← play_append] at hturns
  rw [← orders_settled, hthen.current] at hget
  rw [← orders_settled, hnow.current, hturns]
  obtain ⟨-, hsame⟩ | ⟨-, later, hlater, -, hterms⟩ :=
    (hturns ▸ hnow.lawful).last_cases hd.orders hget
  · exact ⟨order, hsame, .refl order⟩
  · exact ⟨later, hlater, hterms⟩

/-- Every call that is served on its own has its footprint, and in every run of calls that are
served at the same time no stored order is lost and none changes its terms. -/
theorem Call.footprint_and_terms (defaultLimit : Nat) (d : Desk) (hd : d.Keyed) :
    (∀ (call : Call) (moments : Nat → Moment),
      call.Footprint d ((call.program defaultLimit).run (Desk.answerAt moments) (d, 0)).1
        ((call.program defaultLimit).run (Desk.answerAt moments) (d, 0)).2.1) ∧
    ∀ (calls : List Call) (schedule more : List Choice) (orderId : OrderId) (order : Order),
      ((Traffic.start d (calls.map (Call.program defaultLimit))).play
        schedule).desk.orders.get? orderId = some order →
      ∃ later, ((Traffic.start d (calls.map (Call.program defaultLimit))).play
        (schedule ++ more)).desk.orders.get? orderId = some later ∧ Order.SameTerms order later :=
  ⟨fun call moments => call.footprint_run defaultLimit hd moments,
    fun calls schedule more _ _ hget => Traffic.terms_play defaultLimit hd calls schedule more hget⟩

/-- On the small desk the order of the only user is confirmed, and it is the only thing that
changes. -/
theorem Call.footprint_of_confirmation :
    let d := Desk.small.putOrder .small
    let call := Call.update "ord_1700000000_abcd1234_alice" .confirmed .system
    let served := (call.program 50).run (Desk.answerAt fun n => .small n) (d, 0)
    served.1 = .ok (.order (Order.small.withStatus .confirmed (.ofSeconds 1700000001)).view) ∧
      call.Footprint d served.1 served.2.1 :=
  ⟨by decide +kernel,
    (footprint_and_terms 50 _ (Desk.keyed_small.putOrder .small)).1 _ fun n => .small n⟩

end OrderDesk
