import OrderDesk.Proofs.Collision
import OrderDesk.Proofs.Views

/-!
# Calls of different users in either order

Two calls by different users, each of whom names own orders only, can be served in either order:
each of them has the same reply, and the desk stores the same orders and balances afterwards. This
is so even if both calls place orders in the same second with the same token, since an order ID ends
with the name of its user, and names may well have underscores in them.

## Main results

* `OrderDesk.Call.agreesFor_run` — a call of somebody else changes nothing that a user depends on.
* `OrderDesk.Call.run_after_foreign` — a call is the same before and after one of somebody else.
* `OrderDesk.Call.commute_of_own_orders` — the two calls in either order.

## Design

The two orders of the calls are compared as each user sees the desks. A user who makes neither call
sees the first desk all the time. The one who makes a call sees the same change, whether or not the
other call has been served before. Every order and every balance is somebody's, so that desks which
agree for everybody store the same.
-/

set_option autoImplicit false

namespace OrderDesk

/-! ## Calls of somebody else -/

/-- No order ID is drawn for two users. -/
theorem OrderId.IsDrawnFor.eq {u v : Username} {orderId : OrderId} (hu : orderId.IsDrawnFor u)
    (hv : orderId.IsDrawnFor v) : u = v := by
  obtain ⟨s, token, rfl⟩ := hu
  obtain ⟨t, token', h⟩ := hv
  exact congrArg Username.mk (username_of_standard_eq h)

namespace Desk

variable {u v : Username} {d d' : Desk}

/-- Desks that agree for everybody store the same orders. -/
theorem orders_eq_of_agreesFor {ids : Username → OrderId → Prop} {e : Desk}
    (h : ∀ w, d.AgreesFor (ids w) w e) (orderId : OrderId) :
    d.orders.get? orderId = e.orders.get? orderId :=
  Option.ext fun order => (h order.username).own orderId order rfl

/-- Another status of somebody else's order changes nothing that a user depends on. -/
theorem Moves.agreesFor (hd : d.Keyed) {orderId : String} {target : Status} {receipt : Receipt}
    (hmoves : d.Moves orderId target receipt d') (howner : d.Stores v ⟨orderId⟩) (hne : u ≠ v)
    (ids : OrderId → Prop) : d.AgreesFor ids u d' := by
  obtain ⟨order, now, hstored, rfl, -⟩ := hmoves
  obtain ⟨own, hown, rfl⟩ := howner
  obtain rfl := Option.some.inj (hstored.symm.trans hown)
  have hkey : order.orderId = ⟨orderId⟩ := hd.orders _ _ hstored
  rw [← hkey] at hstored ⊢
  have hforeign : (order.withStatus target now).username ≠ u := hne.symm
  apply AgreesFor.foreignOrder d hforeign
  · intro stored h
    obtain rfl := Option.some.inj (hstored.symm.trans h)
    exact hne.symm
  · intro _ hnone
    cases hstored.symm.trans hnone

/-- A new order of somebody else, and the balance that is left, change nothing that a user depends
on. -/
theorem Gains.agreesFor (hd : d.Keyed) {form : OrderForm} {receipt : Receipt}
    (hgains : d.Gains form receipt d')
    (hby : Text.IsUsername (Text.trim form.username) → Text.trim form.username = v.text)
    (hne : u ≠ v) : d.AgreesFor (OrderId.IsDrawnFor u) u d' := by
  obtain ⟨order, balance, now, hplaces, hnew, hcharge, rfl, -⟩ := hgains
  obtain ⟨hname, howner, hdrawn⟩ := hplaces.owner
  obtain rfl : order.username = v := howner.trans (congrArg Username.mk (hby hname))
  have hbalance : balance.username = order.username := by
    rw [username_of_charge hcharge, username_balanceOf hd.balances]
  have hstored : d.AgreesFor (OrderId.IsDrawnFor u) u (d.putOrder order) := by
    apply AgreesFor.foreignOrder d hne.symm
    · intro stored h
      cases hnew.symm.trans h
    · intro hown
      -- this is where a token that is drawn twice would do harm
      exact absurd (hown.eq hdrawn) hne
  have hpaid : AgreesFor (OrderId.IsDrawnFor u) u (d.putOrder order)
      ((d.putOrder order).putBalance balance) :=
    .foreignBalance _ (hbalance ▸ hne.symm)
  rw [← hbalance]
  exact hstored.trans hpaid

end Desk

namespace Call

variable {u v : Username} {d e : Desk}

/-- **A call of somebody else** who names own orders only changes nothing that a user depends on. -/
theorem agreesFor_run (defaultLimit : Nat) (moments : Nat → Moment) (hd : d.Keyed) {call : Call}
    (hby : call.IsBy v) (hnames : call.NamesOnly (d.Stores v)) (hne : u ≠ v) :
    d.AgreesFor (OrderId.IsDrawnFor u) u
      ((call.program defaultLimit).run (Desk.answerAt moments) (d, 0)).2.1 := by
  have hfootprint := call.footprint_run defaultLimit hd moments
  generalize ((call.program defaultLimit).run (Desk.answerAt moments) (d, 0)).1 = reply
    at hfootprint
  generalize ((call.program defaultLimit).run (Desk.answerAt moments) (d, 0)).2.1 = d'
    at hfootprint ⊢
  match call, reply with
  | .place _, .error _ | .cancel .., .error _ | .update .., .error _ | .order .., .error _
  | .orders _, .error _ | .order .., .ok _ | .orders _, .ok _ =>
    obtain rfl : d' = d := hfootprint
    exact .refl d'
  | .place form, .ok receipt => exact Desk.Gains.agreesFor hd hfootprint hby hne
  | .cancel _ orderId, .ok receipt => exact Desk.Moves.agreesFor hd hfootprint hnames hne _
  | .update orderId target _, .ok receipt =>
    exact Desk.Moves.agreesFor hd hfootprint hnames hne _

/-- A call that names own orders of its user only does the same on two desks that agree for the
user. -/
theorem run_congr (defaultLimit : Nat) (moments : Nat → Moment) (hd : d.Keyed) (he : e.Keyed)
    (hagrees : d.AgreesFor (OrderId.IsDrawnFor u) u e) {call : Call} (hby : call.IsBy u)
    (hnames : call.NamesOnly (d.Stores u)) :
    let served (d : Desk) := (call.program defaultLimit).run (Desk.answerAt moments) (d, 0)
    (served d).1 = (served e).1 ∧
      (served d).2.1.AgreesFor (OrderId.IsDrawnFor u) u (served e).2.1 := by
  intro served
  have hsafe : call.NamesOnly (d.IsSafe (OrderId.IsDrawnFor u) u) :=
    hnames.mono fun orderId hstores => .inl hstores
  have halike := endAlike_of_agreesFor defaultLimit moments hby (fun _ h => h) hsafe
    (s := (d, 0)) (t := (e, 0)) ⟨⟨hd, he⟩, hagrees, rfl⟩
  obtain ⟨hreply, hpeers⟩ := halike.elim fun _ _ _ h => h
  exact ⟨hreply, hpeers.agrees⟩

/-- **A call is the same before and after one of somebody else.** It has the same reply, and it does
to the orders and the money of its user what it does without the other call. -/
theorem run_after_foreign (defaultLimit : Nat) (momentsA momentsB : Nat → Moment) (hd : d.Keyed)
    {a b : Call} (ha : a.IsBy u) (hb : b.IsBy v) (hne : u ≠ v)
    (hnamesA : a.NamesOnly (d.Stores u)) (hnamesB : b.NamesOnly (d.Stores v)) :
    let serve (call : Call) (moments : Nat → Moment) (d : Desk) :=
      (call.program defaultLimit).run (Desk.answerAt moments) (d, 0)
    (serve a momentsA d).1 = (serve a momentsA (serve b momentsB d).2.1).1 ∧
      (serve a momentsA d).2.1.AgreesFor (OrderId.IsDrawnFor u) u
        (serve a momentsA (serve b momentsB d).2.1).2.1 :=
  run_congr defaultLimit momentsA hd (Program.keyed_run momentsB _ hd)
    (agreesFor_run defaultLimit momentsB hd hb hnamesB hne) ha hnamesA

/-- A call leaves the orders that somebody else may name. -/
theorem namesOnly_after_foreign (defaultLimit : Nat) (moments : Nat → Moment) (hd : d.Keyed)
    {a b : Call} (hb : b.IsBy v) (hne : u ≠ v) (hnamesA : a.NamesOnly (d.Stores u))
    (hnamesB : b.NamesOnly (d.Stores v)) :
    a.NamesOnly (((b.program defaultLimit).run (Desk.answerAt moments) (d, 0)).2.1.Stores u) := by
  have hagrees := agreesFor_run defaultLimit moments hd hb hnamesB hne
  refine hnamesA.mono ?_
  rintro orderId ⟨order, hstored, howner⟩
  exact ⟨order, (hagrees.own orderId order howner).1 hstored, howner⟩

/-- **Calls of different users commute.** Let two different users each make a call and name own
orders only. Whichever call is served first, and whatever the clock and the tokens say during each
of them, both have the same replies, and the desk stores the same orders and balances at the end.

**Proof sketch.** The desks at the end agree for every user. For the user of the first call, the
second call changes nothing, and the first call does the same with and without the second one before
it; the same holds the other way round. For everybody else neither call changes anything. -/
theorem commute_of_own_orders (defaultLimit : Nat) (momentsA momentsB : Nat → Moment)
    (hd : d.Keyed) {a b : Call} (hne : u ≠ v) (ha : a.IsBy u) (hb : b.IsBy v)
    (hnamesA : a.NamesOnly (d.Stores u)) (hnamesB : b.NamesOnly (d.Stores v)) :
    let serve (call : Call) (moments : Nat → Moment) (d : Desk) :=
      (call.program defaultLimit).run (Desk.answerAt moments) (d, 0)
    let afterA := (serve a momentsA d).2.1
    let afterB := (serve b momentsB d).2.1
    let afterAB := (serve b momentsB afterA).2.1
    let afterBA := (serve a momentsA afterB).2.1
    (serve a momentsA d).1 = (serve a momentsA afterB).1 ∧
      (serve b momentsB afterA).1 = (serve b momentsB d).1 ∧
      (∀ orderId, afterAB.orders.get? orderId = afterBA.orders.get? orderId) ∧
      ∀ username, afterAB.balances.get? username = afterBA.balances.get? username := by
  intro serve afterA afterB afterAB afterBA
  obtain ⟨hreplyA, hviewA⟩ :=
    run_after_foreign defaultLimit momentsA momentsB hd ha hb hne hnamesA hnamesB
  obtain ⟨hreplyB, hviewB⟩ :=
    run_after_foreign defaultLimit momentsB momentsA hd hb ha hne.symm hnamesB hnamesA
  have hkeyedA : afterA.Keyed := Program.keyed_run momentsA _ hd
  have hkeyedB : afterB.Keyed := Program.keyed_run momentsB _ hd
  have hlaterA : a.NamesOnly (afterB.Stores u) :=
    namesOnly_after_foreign defaultLimit momentsB hd hb hne hnamesA hnamesB
  have hlaterB : b.NamesOnly (afterA.Stores v) :=
    namesOnly_after_foreign defaultLimit momentsA hd ha hne.symm hnamesB hnamesA
  have hA {w : Username} (hw : w ≠ u) : d.AgreesFor (OrderId.IsDrawnFor w) w afterA :=
    agreesFor_run defaultLimit momentsA hd ha hnamesA hw
  have hB {w : Username} (hw : w ≠ v) : d.AgreesFor (OrderId.IsDrawnFor w) w afterB :=
    agreesFor_run defaultLimit momentsB hd hb hnamesB hw
  have hAB {w : Username} (hw : w ≠ v) : afterA.AgreesFor (OrderId.IsDrawnFor w) w afterAB :=
    agreesFor_run defaultLimit momentsB hkeyedA hb hlaterB hw
  have hBA {w : Username} (hw : w ≠ u) : afterB.AgreesFor (OrderId.IsDrawnFor w) w afterBA :=
    agreesFor_run defaultLimit momentsA hkeyedB ha hlaterA hw
  -- a user who made one of the calls sees that call alone, in either order; others see neither
  have hsame (w : Username) : afterAB.AgreesFor (OrderId.IsDrawnFor w) w afterBA := by
    by_cases hu : w = u
    · subst hu
      exact (hAB hne).symm.trans hviewA
    by_cases hv : w = v
    · subst hv
      exact hviewB.symm.trans (hBA hne.symm)
    · exact (hAB hv).symm.trans ((hA hu).symm.trans ((hB hv).trans (hBA hu)))
  exact ⟨hreplyA, hreplyB.symm, Desk.orders_eq_of_agreesFor hsame,
    fun username => (hsame username).balance⟩

/-- On the small desk two users place orders in the same second with the same token. Both of them
get one, and it does not matter who comes first. -/
theorem commute_of_equal_tokens :
    let d := (Desk.small.putUser { username := ⟨"bob"⟩, role := .customer, isActive := true })
      |>.putBalance { username := ⟨"bob"⟩, current := 1000, updatedAt := .ofSeconds 1700000000 }
    let form (name : String) : OrderForm :=
      { username := name, orderType := .marketBuy, assetId := "BTC", quantity := 1,
        orderPrice := none, expiresAt := none }
    let moments (n : Nat) : Moment := .small n
    let serve (call : Call) (moments : Nat → Moment) (d : Desk) :=
      (call.program 50).run (Desk.answerAt moments) (d, 0)
    let afterA := (serve (place (form "alice")) moments d).2.1
    let afterB := (serve (place (form "bob")) moments d).2.1
    let afterAB := (serve (place (form "bob")) moments afterA).2.1
    let afterBA := (serve (place (form "alice")) moments afterB).2.1
    ((afterAB.orders.get? ⟨"ord_20231114_221325_00000000_alice"⟩).isSome ∧
      (afterAB.orders.get? ⟨"ord_20231114_221325_00000000_bob"⟩).isSome) ∧
    (serve (place (form "alice")) moments d).1 = (serve (place (form "alice")) moments afterB).1 ∧
      (serve (place (form "bob")) moments afterA).1 = (serve (place (form "bob")) moments d).1 ∧
      (∀ orderId, afterAB.orders.get? orderId = afterBA.orders.get? orderId) ∧
      ∀ username, afterAB.balances.get? username = afterBA.balances.get? username := by
  intro d form moments
  have hd : d.Keyed := (Desk.keyed_small.putUser _).putBalance _
  have hne : (⟨"alice"⟩ : Username) ≠ ⟨"bob"⟩ := by decide
  have ha : (place (form "alice")).IsBy ⟨"alice"⟩ := fun _ => by decide
  have hb : (place (form "bob")).IsBy ⟨"bob"⟩ := fun _ => by decide
  have hcommute := commute_of_own_orders 50 moments moments hd hne ha hb trivial trivial
  exact ⟨by decide +kernel, hcommute⟩

/-- A user whose name begins with a blank pays with the money of the user of the same name without
the blank: a form names the latter. So it matters which of the two comes first. -/
theorem order_matters_for_padded_name :
    let u : Username := ⟨" alice"⟩
    let v : Username := ⟨"alice"⟩
    let d := Desk.small.putUser { username := u, role := .customer, isActive := true }
    let form (name : String) : OrderForm :=
      { username := name, orderType := .marketBuy, assetId := "BTC", quantity := 1,
        orderPrice := none, expiresAt := none }
    let momentsA (n : Nat) : Moment := .small n
    let momentsB (n : Nat) : Moment := .small (n + 10)
    let serve (call : Call) (moments : Nat → Moment) (d : Desk) :=
      (call.program 50).run (Desk.answerAt moments) (d, 0)
    (d.Keyed ∧ u ≠ v ∧ (d.users.get? u).isSome ∧ (d.users.get? v).isSome) ∧
    (serve (place (form u.text)) momentsA d).1.isOk = true ∧
    (serve (place (form u.text)) momentsA (serve (place (form v.text)) momentsB d).2.1).1 =
      .error (.error (.insufficientBalance 600.00 400.00)) :=
  ⟨⟨Desk.keyed_small.putUser _, by decide, by decide, by decide⟩, by decide +kernel,
    by decide +kernel⟩

end Call

end OrderDesk
