import OrderDesk.Proofs.Views

/-!
# What customers learn about each other

A customer who calls the service learns nothing about the orders of other customers, but for which
order IDs are taken, and nothing about their balances. Two desks that differ in nothing else give
the same replies, whatever the customer asks for and whosever order IDs the customer names.

## Main definitions

* `OrderDesk.Desk.LooksLike` — two desks that look alike to a user.
* `OrderDesk.Call.session` — calls that are served one after another.

## Main results

* `OrderDesk.Desk.looksLike_iff` — desks look alike if they agree on all order IDs.
* `OrderDesk.Call.endAlike_service` — a call ends alike, and the desks look alike afterwards.
* `OrderDesk.Call.confidential` — the reply says nothing about other customers.
* `OrderDesk.Call.session_confidential` — neither do the replies to many calls.

## Design

The desk looks an order up before it is known whether the user may see it. The two runs of a call
can differ at this point alone, and from there both of them end with the same refusal. All other
requests of a call are answered alike, so that the two runs ask the same.
-/

set_option autoImplicit false

namespace OrderDesk

/-! ## Desks that look alike -/

/-- Two desks **look alike to** a user: they have the same users and assets, the same balance of the
user and the same orders of the user, and the same order IDs are taken. -/
structure Desk.LooksLike (u : Username) (d e : Desk) : Prop where
  users : ∀ name, d.users.get? name = e.users.get? name
  assets : ∀ assetId, d.assets.get? assetId = e.assets.get? assetId
  balance : d.balances.get? u = e.balances.get? u
  own : ∀ orderId order, order.username = u →
    (d.orders.get? orderId = some order ↔ e.orders.get? orderId = some order)
  taken : ∀ orderId, d.orders.get? orderId = none ↔ e.orders.get? orderId = none

/-- Two desks look alike to a user exactly if they agree for the user and it matters of all order
IDs whether they are taken. -/
theorem Desk.looksLike_iff {u : Username} {d e : Desk} :
    d.LooksLike u e ↔ d.AgreesFor (fun _ => True) u e :=
  ⟨fun h => ⟨h.users, h.assets, h.balance, h.own, fun orderId _ => h.taken orderId⟩,
    fun h => ⟨h.users, h.assets, h.balance, h.own, fun orderId => h.taken orderId trivial⟩⟩

namespace Desk.LooksLike

variable {u : Username} {d e : Desk}

/-- A desk looks like itself. -/
theorem refl (d : Desk) : LooksLike u d d :=
  looksLike_iff.2 (.refl d)

/-- A desk in between looks like both. -/
theorem trans {f : Desk} (h : LooksLike u d e) (h' : LooksLike u e f) : LooksLike u d f :=
  looksLike_iff.2 ((looksLike_iff.1 h).trans (looksLike_iff.1 h'))

/-- A user does not see the balance of somebody else. -/
theorem foreignBalance (d : Desk) {balance : Balance} (hforeign : balance.username ≠ u) :
    LooksLike u d (d.putBalance balance) :=
  looksLike_iff.2 (.foreignBalance d hforeign)

/-- A user does not see what is in the order of somebody else. -/
theorem foreignOrder (d : Desk) {order other : Order} (hid : order.orderId = other.orderId)
    (hforeign : order.username ≠ u) (hforeign' : other.username ≠ u) :
    LooksLike u (d.putOrder order) (d.putOrder other) := by
  refine { refl d with own := fun orderId o ho => ?_, taken := fun orderId => ?_ }
  · rw [get?_orders_putOrder, get?_orders_putOrder, hid]
    split
    · have hneither {o' : Order} (h : o'.username ≠ u) : some o' ≠ some o :=
        fun heq => h (Option.some.inj heq ▸ ho)
      exact iff_of_false (hneither hforeign) (hneither hforeign')
    · exact Iff.rfl
  · rw [get?_orders_putOrder, get?_orders_putOrder, hid]
    split <;> simp

end Desk.LooksLike

/-- **Twins** for a customer: two desks that look alike to the customer and have answered as many
requests. -/
structure Twins (u : Username) (s t : Desk × Nat) : Prop where
  keyed : s.1.Keyed ∧ t.1.Keyed
  looksLike : s.1.LooksLike u t.1
  count : s.2 = t.2
  customer : ∀ user, s.1.users.get? u = some user → user.isAdmin = false

/-- Twins are peers for whom all order IDs matter. -/
theorem Twins.peers {u : Username} {s t : Desk × Nat} (h : Twins u s t) :
    Peers (fun _ => True) u s t :=
  ⟨h.keyed, Desk.looksLike_iff.1 h.looksLike, h.count⟩

/-- As long as the customer stays one, such peers are twins again. -/
theorem Twins.of_peers {u : Username} {s t s' t' : Desk × Nat} (h : Twins u s t)
    (halike : s.1.Alike s'.1) (hpeers : Peers (fun _ => True) u s' t') : Twins u s' t' :=
  ⟨hpeers.keyed, Desk.looksLike_iff.2 hpeers.agrees, hpeers.count, halike.users ▸ h.customer⟩

/-! ## Calls -/

namespace Call

variable {u : Username} {s t : Desk × Nat}

/-- **A call of a customer ends alike.** Twins give the same reply, and they are twins again. -/
theorem endAlike_service (defaultLimit : Nat) (moments : Nat → Moment) (call : Call)
    (hby : call.IsBy u) (h : Twins u s t) :
    Service.EndAlike (Twins u) (fun _ => Twins u)
      ((call.service defaultLimit).run (Desk.answerAt moments) s)
      ((call.service defaultLimit).run (Desk.answerAt moments) t) := by
  have hsafe : call.NamesOnly (s.1.IsSafe (fun _ => True) u) := by
    cases call with
    | cancel | update | order => exact .inr ⟨h.customer, trivial⟩
    | place | orders => trivial
  have halike := endAlike_of_agreesFor defaultLimit moments hby (fun _ _ => trivial) hsafe h.peers
  have husers : s.1.Alike ((call.service defaultLimit).run (Desk.answerAt moments) s).2.1 :=
    Program.alike_run moments _ s
  generalize (call.service defaultLimit).run (Desk.answerAt moments) s = left at halike husers ⊢
  generalize (call.service defaultLimit).run (Desk.answerAt moments) t = right at halike ⊢
  cases halike with
  | ok hpeers => exact .ok (h.of_peers husers hpeers)
  | error hpeers => exact .error (h.of_peers husers hpeers)

/-- **Confidentiality between customers.** Let two desks look alike to a user who is no
administrator: they have the same users and assets, the same balance and orders of this user, and
the same order IDs are taken. Then every call by the user has the same reply on both, and they look
alike to the user again. -/
theorem confidential (defaultLimit : Nat) (moments : Nat → Moment) {u : Username} {d e : Desk}
    (hd : d.Keyed) (he : e.Keyed)
    (hcustomer : ∀ user, d.users.get? u = some user → user.isAdmin = false)
    (halike : d.LooksLike u e) (call : Call) (hby : call.IsBy u) :
    let served (d : Desk) := (call.program defaultLimit).run (Desk.answerAt moments) (d, 0)
    (served d).1 = (served e).1 ∧ (served d).2.1.LooksLike u (served e).2.1 := by
  intro served
  have htwins : Twins u (d, 0) (e, 0) := ⟨⟨hd, he⟩, halike, rfl, hcustomer⟩
  obtain ⟨hreply, hafter⟩ := (endAlike_service defaultLimit moments call hby htwins).elim
    fun _ _ _ h => h
  exact ⟨hreply, hafter.looksLike⟩

/-- On the small desk a customer who asks about somebody else's order is told that it is somebody
else's, whether or not it has been confirmed and whatever money its owner has. -/
theorem confidential_of_foreign_order :
    let rival : User := { username := ⟨"bob"⟩, role := .customer, isActive := true }
    let confirmed := Order.small.withStatus .confirmed (.ofSeconds 1700000005)
    let d := (Desk.small.putUser rival).putOrder .small
    let e := ((Desk.small.putUser rival).putOrder confirmed).putBalance
      { username := ⟨"alice"⟩, current := 5, updatedAt := .ofSeconds 1700000005 }
    let call : Call := .cancel "bob" Order.small.orderId.text
    let served (d : Desk) := (call.program 50).run (Desk.answerAt fun n => .small n) (d, 0)
    (served d).1 = .error (.error Service.foreignOrder) ∧
      (served d).1 = (served e).1 ∧ (served d).2.1.LooksLike ⟨"bob"⟩ (served e).2.1 := by
  intro rival confirmed d e call served
  have hkeyed := Desk.keyed_small.putUser rival
  have hforeign : (⟨"alice"⟩ : Username) ≠ ⟨"bob"⟩ := by decide
  have horder : d.LooksLike ⟨"bob"⟩ ((Desk.small.putUser rival).putOrder confirmed) :=
    .foreignOrder _ rfl hforeign hforeign
  have halike : d.LooksLike ⟨"bob"⟩ e := horder.trans (.foreignBalance _ hforeign)
  have hcustomer : ∀ user, d.users.get? ⟨"bob"⟩ = some user → user.isAdmin = false := by
    intro user huser
    cases huser
    rfl
  exact ⟨by decide +kernel, confidential 50 (fun n => .small n) (hkeyed.putOrder _)
    ((hkeyed.putOrder _).putBalance _) hcustomer halike call rfl⟩

/-- A user whose name begins with a blank is told of the money of the user of the same name without
the blank: a form names the latter. -/
theorem disclosure_of_padded_name :
    let u : Username := ⟨" bob"⟩
    let d := (Desk.small.putUser { username := u, role := .customer, isActive := true }).putUser
      { username := ⟨"bob"⟩, role := .customer, isActive := true }
    let e := d.putBalance
      { username := ⟨"bob"⟩, current := 10, updatedAt := .ofSeconds 1700000000 }
    let form : OrderForm :=
      { username := " bob", orderType := .marketBuy, assetId := "BTC", quantity := 1,
        orderPrice := none, expiresAt := none }
    let reply (d : Desk) := (place form).reply 50 (fun n => .small n) d
    (d.Keyed ∧ e.Keyed ∧ d.LooksLike u e ∧ form.username = u.text ∧
      ∀ user, d.users.get? u = some user → user.isAdmin = false) ∧
    reply d = .error (.error (.insufficientBalance 600.00 0)) ∧
    reply e = .error (.error (.insufficientBalance 600.00 10)) := by
  intro u d e form reply
  have hkeyed : d.Keyed := (Desk.keyed_small.putUser _).putUser _
  have hforeign : (⟨"bob"⟩ : Username) ≠ u := by decide
  refine ⟨⟨hkeyed, hkeyed.putBalance _, .foreignBalance d hforeign, rfl, ?_⟩,
    by decide +kernel, by decide +kernel⟩
  intro user huser
  cases huser
  rfl

/-! ## Sessions -/

/-- The replies to calls that are served one after another, each at moments of its own, and the desk
that they leave. -/
def session (defaultLimit : Nat) : List (Call × (Nat → Moment)) → Desk → List Reply × Desk
  | [], d => ([], d)
  | (call, moments) :: calls, d =>
    let served := (call.program defaultLimit).run (Desk.answerAt moments) (d, 0)
    let rest := session defaultLimit calls served.2.1
    (served.1 :: rest.1, rest.2)

/-- **A whole session of a customer is confidential.** However many calls a customer makes, one
after another, all of their replies are the same on two desks that look alike to the customer. -/
theorem session_confidential (defaultLimit : Nat) {u : Username} {d e : Desk}
    (h : Twins u (d, 0) (e, 0)) (calls : List (Call × (Nat → Moment)))
    (hby : ∀ call ∈ calls, call.1.IsBy u) :
    (session defaultLimit calls d).1 = (session defaultLimit calls e).1 ∧
      (session defaultLimit calls d).2.LooksLike u (session defaultLimit calls e).2 := by
  induction calls generalizing d e with
  | nil => exact ⟨rfl, h.looksLike⟩
  | cons first calls ih =>
    obtain ⟨call, moments⟩ := first
    obtain ⟨hreply, hafter⟩ := (endAlike_service defaultLimit moments call
      (hby _ List.mem_cons_self) h).elim fun _ _ _ h => h
    have hnext := ih ⟨hafter.keyed, hafter.looksLike, rfl, hafter.customer⟩
      fun call hcall => hby call (List.mem_cons_of_mem _ hcall)
    exact ⟨congrArg₂ List.cons hreply hnext.1, hnext.2⟩

end Call

end OrderDesk
