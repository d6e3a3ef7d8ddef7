import OrderDesk.Proofs.Authority
import OrderDesk.Proofs.Listing

/-!
# What the calls of a user depend on

A call by a user reads the users and the assets, the balance of this user, the orders of this user,
and whether the order ID of a new order is taken. It looks an order up before it is known whose it
is, but what it tells about somebody else's order is always the same. So two desks that agree on
what the user may see give the same reply, and they agree on it again afterwards.

## Main definitions

* `OrderDesk.Desk.AgreesFor` — two desks agree for a user.
* `OrderDesk.Desk.IsSafe` — order IDs that a user may name without learning more than that.
* `OrderDesk.OrderId.IsDrawnFor` — order IDs that new orders of a user may get.
* `OrderDesk.Call.IsBy` — a call by a user.
* `OrderDesk.Call.NamesOnly` — a call that names certain order IDs only.
* `OrderDesk.Request.IsDiscreet` — requests that such desks answer alike.

## Main results

* `OrderDesk.Service.endAlike_ownedOrder` — the look at an order is the same.
* `OrderDesk.Call.endAlike_of_agreesFor` — a call ends alike, and the desks agree again afterwards.

## Design

For which order IDs it has to be the same whether they are taken depends on whose calls are to be
kept apart. A user who names an order of somebody else learns whether there is one, and for this all
order IDs matter. A user who names own orders only depends on the order IDs that are drawn for the
user.
-/

set_option autoImplicit false

namespace OrderDesk

/-! ## Desks that agree -/

/-- Two desks **agree for** a user: they have the same users and assets, the same balance of the
user and the same orders of the user, and of these order IDs the same ones are taken. -/
structure Desk.AgreesFor (ids : OrderId → Prop) (u : Username) (d e : Desk) : Prop where
  users : ∀ name, d.users.get? name = e.users.get? name
  assets : ∀ assetId, d.assets.get? assetId = e.assets.get? assetId
  balance : d.balances.get? u = e.balances.get? u
  own : ∀ orderId order, order.username = u →
    (d.orders.get? orderId = some order ↔ e.orders.get? orderId = some order)
  taken : ∀ orderId, ids orderId →
    (d.orders.get? orderId = none ↔ e.orders.get? orderId = none)

namespace Desk.AgreesFor

variable {ids : OrderId → Prop} {u : Username} {d e : Desk}

/-- A desk agrees with itself. -/
theorem refl (d : Desk) : AgreesFor ids u d d :=
  ⟨fun _ => rfl, fun _ => rfl, rfl, fun _ _ _ => Iff.rfl, fun _ _ => Iff.rfl⟩

/-- The desks agree the other way round. -/
theorem symm (h : AgreesFor ids u d e) : AgreesFor ids u e d where
  users name := (h.users name).symm
  assets assetId := (h.assets assetId).symm
  balance := h.balance.symm
  own orderId order ho := (h.own orderId order ho).symm
  taken orderId hid := (h.taken orderId hid).symm

/-- A desk in between agrees with both. -/
theorem trans {f : Desk} (h : AgreesFor ids u d e) (h' : AgreesFor ids u e f) :
    AgreesFor ids u d f where
  users name := (h.users name).trans (h'.users name)
  assets assetId := (h.assets assetId).trans (h'.assets assetId)
  balance := h.balance.trans h'.balance
  own orderId order ho := (h.own orderId order ho).trans (h'.own orderId order ho)
  taken orderId hid := (h.taken orderId hid).trans (h'.taken orderId hid)

/-- A user does not see the balance of somebody else. -/
theorem foreignBalance (d : Desk) {balance : Balance} (hforeign : balance.username ≠ u) :
    AgreesFor ids u d (d.putBalance balance) := by
  refine { refl d with balance := ?_ }
  rw [get?_balances_putBalance, if_neg hforeign]

/-- A user does not see an order of somebody else that is stored where no order of the user was, and
under an order ID that was taken before or does not matter. -/
theorem foreignOrder (d : Desk) {order : Order} (hforeign : order.username ≠ u)
    (hbefore : ∀ stored, d.orders.get? order.orderId = some stored → stored.username ≠ u)
    (htaken : ids order.orderId → d.orders.get? order.orderId ≠ none) :
    AgreesFor ids u d (d.putOrder order) := by
  refine ⟨fun _ => rfl, fun _ => rfl, rfl, fun orderId o ho => ?_, fun orderId hid => ?_⟩
  · rw [get?_orders_putOrder]
    split
    · next heq =>
      subst heq
      refine iff_of_false (fun hstored => hbefore o hstored ho) fun hput => hforeign ?_
      exact Option.some.inj hput ▸ ho
    · exact Iff.rfl
  · rw [get?_orders_putOrder]
    split
    · next heq =>
      subst heq
      exact iff_of_false (htaken hid) (by simp)
    · exact Iff.rfl

/-- Where one desk has an order of somebody else, so does the other one, if it matters whether the
order ID is taken. -/
theorem exists_foreign (h : AgreesFor ids u d e) {orderId : OrderId} (hid : ids orderId)
    {order : Order} (hd : d.orders.get? orderId = some order) (hforeign : order.username ≠ u) :
    ∃ other, e.orders.get? orderId = some other ∧ other.username ≠ u := by
  cases he : e.orders.get? orderId with
  | none => cases hd.symm.trans ((h.taken orderId hid).2 he)
  | some other =>
    refine ⟨other, rfl, fun hown => hforeign ?_⟩
    have hsame := (h.own orderId other hown).2 he
    rw [hd] at hsame
    exact Option.some.inj hsame ▸ hown

/-- The same order put on both desks. -/
theorem putOrder (h : AgreesFor ids u d e) (order : Order) :
    AgreesFor ids u (d.putOrder order) (e.putOrder order) := by
  refine { h with own := fun orderId o ho => ?_, taken := fun orderId hid => ?_ }
  · rw [get?_orders_putOrder, get?_orders_putOrder]
    split
    · rfl
    · exact h.own orderId o ho
  · rw [get?_orders_putOrder, get?_orders_putOrder]
    split
    · rfl
    · exact h.taken orderId hid

/-- The same balance put on both desks. -/
theorem putBalance (h : AgreesFor ids u d e) (balance : Balance) :
    AgreesFor ids u (d.putBalance balance) (e.putBalance balance) := by
  refine { h with balance := ?_ }
  rw [get?_balances_putBalance, get?_balances_putBalance, h.balance]

/-- A commit for the user comes to the same on both desks: the balance is the same, and so is
whether the order ID is taken. -/
theorem commit (h : AgreesFor ids u d e) (m : Moment) (side : Side) {order : Order}
    (howner : order.username = u) (hid : ids order.orderId) :
    (d.commit m side order).1 = (e.commit m side order).1 ∧
      AgreesFor ids u (d.commit m side order).2 (e.commit m side order).2 := by
  have hbalance : d.balanceOf order.username m.now = e.balanceOf order.username m.now := by
    rw [howner, balanceOf, balanceOf, h.balance]
  have htaken : d.orders.contains order.orderId = e.orders.contains order.orderId := by
    have := h.taken order.orderId hid
    unfold Table.contains
    cases hd : d.orders.get? order.orderId <;> cases he : e.orders.get? order.orderId <;> simp_all
  unfold Desk.commit settle persist insertOrder
  rw [hbalance, htaken]
  cases m.stalled with
  | some ms => exact ⟨rfl, h⟩
  | none =>
    cases charge side (e.balanceOf order.username m.now) order.totalAmount m.now with
    | error failure => exact ⟨rfl, h⟩
    | ok balance =>
      cases e.orders.contains order.orderId with
      | true => exact ⟨rfl, h⟩
      | false => exact ⟨rfl, (h.putOrder order).putBalance balance⟩

end Desk.AgreesFor

/-- The desk stores an order of the user under the order ID. -/
def Desk.Stores (d : Desk) (u : Username) (orderId : OrderId) : Prop :=
  ∃ order, d.orders.get? orderId = some order ∧ order.username = u

/-- The order ID is **safe** for a user to name: it is that of an order of the user, or the user is
no administrator and it matters whether the order ID is taken. -/
def Desk.IsSafe (d : Desk) (ids : OrderId → Prop) (u : Username) (orderId : OrderId) : Prop :=
  d.Stores u orderId ∨ (∀ user, d.users.get? u = some user → user.isAdmin = false) ∧ ids orderId

/-- The order ID is one that a new order of the user may get. -/
def OrderId.IsDrawnFor (u : Username) (orderId : OrderId) : Prop :=
  ∃ t token, orderId = .standard t token (some u.text)

/-- An order that a form asks for is one of the user whom the form names, and its order ID is drawn
for this user. -/
theorem OrderForm.Places.owner {form : OrderForm} {order : Order} (h : form.Places order) :
    Text.IsUsername (Text.trim form.username) ∧ order.username = ⟨Text.trim form.username⟩ ∧
      order.orderId.IsDrawnFor order.username := by
  obtain ⟨now, request, price, idTime, token, hcheck, hplace⟩ := h
  obtain ⟨hcorrect, rfl⟩ := OrderForm.check_eq_ok_iff.1 hcheck
  have hnew := Order.isNew_of_place hplace
  refine ⟨hcorrect.username, hnew.username, idTime, token, ?_⟩
  rw [hnew.username]
  exact hnew.orderId

/-! ## What no run changes -/

namespace Program

variable {α : Type} (moments : Nat → Moment)

/-- A program leaves users and assets as they are. -/
theorem alike_run (p : Program α) (s : Desk × Nat) :
    s.1.Alike (p.run (Desk.answerAt moments) s).2.1 := by
  induction p generalizing s with
  | done a => exact .refl s.1
  | ask request next ih =>
    exact (Desk.Alike.answer s.1 (moments s.2) request).trans
      (ih _ (Desk.answerAt moments request s).2)

/-- A program leaves every entry under its own key. -/
theorem keyed_run (p : Program α) {s : Desk × Nat} (h : s.1.Keyed) :
    (p.run (Desk.answerAt moments) s).2.1.Keyed := by
  induction p generalizing s with
  | done a => exact h
  | ask request next ih =>
    exact ih _ (s := (Desk.answerAt moments request s).2) (h.answer (moments s.2) request)

end Program

/-! ## Requests that are answered alike -/

/-- **Peers** for a user: two desks that agree for the user and have answered as many requests. -/
structure Peers (ids : OrderId → Prop) (u : Username) (s t : Desk × Nat) : Prop where
  keyed : s.1.Keyed ∧ t.1.Keyed
  agrees : s.1.AgreesFor ids u t.1
  count : s.2 = t.2

/-- The request is **discreet** for a user: it asks for nobody else's money or orders, and a new
order gets an order ID of which it matters whether it is taken. -/
def Request.IsDiscreet (ids : OrderId → Prop) (u : Username) : Request → Prop
  | clock | token | findUser _ | findAsset _ | log _ => True
  | findBalance username => username = u.text
  | ordersOf owner _ _ => owner = u
  | commit _ order => order.username = u ∧ ids order.orderId
  | findOrder _ | saveIfStatus .. => False

/-- A request about neither orders nor money is discreet for everybody. -/
theorem Request.IsPassive.isDiscreet {request : Request} (h : request.IsPassive)
    (ids : OrderId → Prop) (u : Username) : request.IsDiscreet ids u := by
  cases request <;> first | exact h.elim | trivial

/-- Peers that have answered one more request, which has changed nothing, are peers. -/
theorem Peers.next {ids : OrderId → Prop} {u : Username} {d e : Desk} {n : Nat}
    (h : Peers ids u (d, n) (e, n)) : Peers ids u (d, n + 1) (e, n + 1) :=
  ⟨h.keyed, h.agrees, rfl⟩

/-- Peers answer discreet requests alike. -/
theorem Peers.answer {ids : OrderId → Prop} {u : Username} {s t : Desk × Nat} (h : Peers ids u s t)
    (moments : Nat → Moment) {request : Request} (hdiscreet : request.IsDiscreet ids u) :
    (Desk.answerAt moments request s).1 = (Desk.answerAt moments request t).1 ∧
      Peers ids u (Desk.answerAt moments request s).2 (Desk.answerAt moments request t).2 := by
  obtain ⟨d, n⟩ := s
  obtain ⟨e, k⟩ := t
  obtain rfl : n = k := h.count
  have hkeyed := And.intro (h.keyed.1.answer (moments n) request)
    (h.keyed.2.answer (moments n) request)
  have hnext := h.next
  cases request with
  | clock | token | log => exact ⟨rfl, hnext⟩
  | findUser username => exact ⟨congrArg Except.ok (h.agrees.users _), hnext⟩
  | findAsset assetId => exact ⟨congrArg Except.ok (h.agrees.assets _), hnext⟩
  | findBalance username =>
    obtain rfl : username = u.text := hdiscreet
    refine ⟨?_, hnext⟩
    change d.readBalance (moments n) u = e.readBalance (moments n) u
    rw [Desk.readBalance, Desk.readBalance, h.agrees.balance]
  | ordersOf owner status limit =>
    obtain rfl : owner = u := hdiscreet
    exact ⟨congrArg Except.ok (Desk.ordersOf_congr h.keyed.1.orders h.keyed.2.orders
      h.agrees.own status limit), hnext⟩
  | commit side order =>
    obtain ⟨hanswer, hafter⟩ := h.agrees.commit (moments n) side hdiscreet.1 hdiscreet.2
    exact ⟨hanswer, hkeyed, hafter, rfl⟩
  | findOrder | saveIfStatus => exact hdiscreet.elim

namespace Service

/-! ## Runs that end alike -/

section Runs

variable {σ α β : Type} {R : σ → σ → Prop} {Q : α → σ → σ → Prop} {h : Handler σ} {s t : σ}

/-- Two runs **end alike**: with the same value, about which `Q` holds of the surroundings, or with
the same error, and then `R` holds of them. -/
inductive EndAlike (R : σ → σ → Prop) (Q : α → σ → σ → Prop) :
    Except (Failure ServiceError) α × σ → Except (Failure ServiceError) α × σ → Prop where
  | ok {a : α} {s t : σ} (hQ : Q a s t) : EndAlike R Q (.ok a, s) (.ok a, t)
  | error {e : Failure ServiceError} {s t : σ} (hR : R s t) :
      EndAlike R Q (.error e, s) (.error e, t)

/-- One step after another. -/
theorem EndAlike.bind {S : β → σ → σ → Prop} {x : Service α} {f : α → Service β}
    (hx : EndAlike R Q (x.run h s) (x.run h t))
    (hf : ∀ a s t, Q a s t → EndAlike R S ((f a).run h s) ((f a).run h t)) :
    EndAlike R S ((x >>= f).run h s) ((x >>= f).run h t) := by
  rw [run_bind, run_bind]
  generalize x.run h s = left at hx ⊢
  generalize x.run h t = right at hx ⊢
  cases hx with
  | ok hQ => exact hf _ _ _ hQ
  | error hR => exact .error hR

/-- Runs that end alike have the same result, and whatever holds of the surroundings in both cases
holds of them. -/
theorem EndAlike.elim {left right : Except (Failure ServiceError) α × σ}
    (halike : EndAlike R Q left right) (hQ : ∀ a s t, Q a s t → R s t) :
    left.1 = right.1 ∧ R left.2 right.2 := by
  cases halike with
  | ok h => exact ⟨rfl, hQ _ _ _ h⟩
  | error h => exact ⟨rfl, h⟩

/-- A weaker end is reached as well. -/
theorem EndAlike.mono {R' : σ → σ → Prop} {Q' : α → σ → σ → Prop}
    {left right : Except (Failure ServiceError) α × σ} (halike : EndAlike R Q left right)
    (hR : ∀ s t, R s t → R' s t) (hQ : ∀ a s t, Q a s t → Q' a s t) :
    EndAlike R' Q' left right := by
  cases halike with
  | ok h => exact .ok (hQ _ _ _ h)
  | error h => exact .error (hR _ _ h)

/-- A service ends alike if all that it asks is answered alike. -/
theorem Yields.endAlike {P : Request → Prop} {V : α → Prop} {x : Service α} (hx : Yields P V x)
    (hanswer : ∀ request s t, P request → R s t →
      (h request s).1 = (h request t).1 ∧ R (h request s).2 (h request t).2) (hR : R s t) :
    EndAlike R (fun a s t => R s t ∧ V a) (x.run h s) (x.run h t) := by
  have hkeeps := hx.keeps
  unfold Service.Keeps at hkeeps
  unfold Service.run
  generalize ExceptT.run x = p at hkeeps
  induction p generalizing s t with
  | done r =>
    cases r with
    | ok a => exact .ok ⟨hR, hkeeps a rfl⟩
    | error e => exact .error hR
  | ask request next ih =>
    obtain ⟨hsame, hnext⟩ := hanswer request s t hkeeps.1 hR
    change EndAlike R _ ((next (h request s).1).run h (h request s).2)
      ((next (h request t).1).run h (h request t).2)
    rw [← hsame]
    exact ih _ hnext (hkeeps.2 _ () trivial)

end Runs

/-! ## The steps of a user -/

section Steps

variable {ids : OrderId → Prop} {u : Username} {s t : Desk × Nat} {moments : Nat → Moment}

/-- A service that is discreet for a user ends alike. -/
theorem AsksOnly.endAlike {α : Type} {x : Service α} (hx : AsksOnly (Request.IsDiscreet ids u) x)
    (h : Peers ids u s t) :
    EndAlike (Peers ids u) (fun _ => Peers ids u) (x.run (Desk.answerAt moments) s)
      (x.run (Desk.answerAt moments) t) :=
  (hx.yields.endAlike (fun _ _ _ hdiscreet h => h.answer moments hdiscreet) h).mono
    (fun _ _ h => h) fun _ _ _ h => h.1

/-- The user is looked up, under the user's own name. -/
theorem endAlike_requireUser (h : Peers ids u s t) :
    EndAlike (Peers ids u) (fun user s t => Peers ids u s t ∧ user.username = u)
      ((requireUser u.text).run (Desk.answerAt moments) s)
      ((requireUser u.text).run (Desk.answerAt moments) t) := by
  obtain ⟨d, n⟩ := s
  obtain ⟨e, k⟩ := t
  obtain rfl : n = k := h.count
  have hnext := h.next
  rw [run_requireUser, run_requireUser, ← h.agrees.users]
  cases huser : d.users.get? u with
  | none => exact .error hnext
  | some user => exact .ok ⟨hnext, h.keyed.1.users u user huser⟩

/-- A customer is not permitted to act on somebody else's orders, whoever that is. -/
theorem permit_of_foreign {user : User} {owner : String} (hcustomer : user.isAdmin = false)
    (howner : user.username.text ≠ owner) :
    permit user owner = .error (if user.isActive then foreignOrder else inactiveUser) := by
  unfold permit
  cases user.isActive <;> simp [hcustomer, howner]

/-- The order has been found for the user: it is stored on both desks. -/
structure Owns (ids : OrderId → Prop) (u : Username) (order : Order) (s t : Desk × Nat) :
    Prop where
  peers : Peers ids u s t
  left : s.1.orders.get? order.orderId = some order
  right : t.1.orders.get? order.orderId = some order

/-- A stored order is looked up for a user: it is the same on both desks, or it is somebody else's
on both and is denied. -/
theorem endAlike_permit (h : Peers ids u s t) {user : User} (hname : user.username = u)
    {key : OrderId} (hsafe : s.1.Stores u key ∨ user.isAdmin = false ∧ ids key) :
    let found : Service Order := do
      let order ← requireOrder key
      ofExcept id (permit user order.username.text)
      return order
    EndAlike (Peers ids u) (Owns ids u) (found.run (Desk.answerAt moments) s)
      (found.run (Desk.answerAt moments) t) := by
  intro found
  obtain ⟨d, n⟩ := s
  obtain ⟨e, k⟩ := t
  obtain rfl : n = k := h.count
  have hnext := h.next
  simp only [found, run_bind (requireOrder key), run_requireOrder]
  cases hd : d.orders.get? key with
  | none =>
    rcases hsafe with ⟨stored, hstored, -⟩ | ⟨-, hid⟩
    · cases hd.symm.trans hstored
    · rw [(h.agrees.taken key hid).1 hd]
      exact .error hnext
  | some order =>
    by_cases howner : order.username = u
    · have he := (h.agrees.own key order howner).1 hd
      obtain rfl := h.keyed.1.orders key order hd
      rw [he]
      dsimp only
      cases permit user order.username.text with
      | ok _ => exact .ok ⟨hnext, hd, he⟩
      | error e => exact .error hnext
    -- whosever order it is on either desk, the refusal does not say so
    · rcases hsafe with ⟨stored, hstored, hown⟩ | ⟨hcustomer, hid⟩
      · cases hd.symm.trans hstored
        exact absurd hown howner
      · obtain ⟨other, he, howner'⟩ := h.agrees.exists_foreign hid hd howner
        have hforeign {o : Order} (ho : o.username ≠ u) : user.username.text ≠ o.username.text := by
          intro htext
          exact ho ((congrArg Username.mk htext).symm.trans hname)
        rw [he]
        dsimp only
        rw [permit_of_foreign hcustomer (hforeign howner),
          permit_of_foreign hcustomer (hforeign howner')]
        exact .error hnext

/-- **The look at an order.** If an order ID is safe for a user to name, the look at it ends
alike. -/
theorem endAlike_ownedOrder (h : Peers ids u s t) {orderId : String}
    (hsafe : s.1.IsSafe ids u ⟨orderId⟩) :
    EndAlike (Peers ids u) (Owns ids u) ((ownedOrder u.text orderId).run (Desk.answerAt moments) s)
      ((ownedOrder u.text orderId).run (Desk.answerAt moments) t) := by
  obtain ⟨d, n⟩ := s
  obtain ⟨e, k⟩ := t
  obtain rfl : n = k := h.count
  unfold ownedOrder
  cases hkey : Field.orderId orderId with
  | error failure => exact .error h
  | ok key =>
    obtain rfl : key = ⟨orderId⟩ := (Field.orderId_eq_ok_iff.1 hkey).2
    change EndAlike _ _ ((requireUser u.text >>= _).run _ _) ((requireUser u.text >>= _).run _ _)
    rw [run_bind, run_bind, run_requireUser, run_requireUser, ← h.agrees.users]
    cases huser : d.users.get? u with
    | none => exact .error h.next
    | some user =>
      refine endAlike_permit h.next (h.keyed.1.users u user huser) (hsafe.imp_right ?_)
      rintro ⟨hcustomer, hid⟩
      exact ⟨hcustomer user huser, hid⟩

/-- Requests about neither orders nor money leave an order with its owner. -/
theorem Owns.answer {order : Order} (h : Owns ids u order s t) {request : Request}
    (hpassive : request.IsPassive) :
    (Desk.answerAt moments request s).1 = (Desk.answerAt moments request t).1 ∧
      Owns ids u order (Desk.answerAt moments request s).2 (Desk.answerAt moments request t).2 := by
  obtain ⟨hsame, hnext⟩ := h.peers.answer moments (hpassive.isDiscreet ids u)
  refine ⟨hsame, hnext, ?_, ?_⟩
  · have hleft := (Desk.Alike.refl s.1).answer_passive (moments s.2) hpassive
    change (Desk.answer _ _ _).2.orders.get? _ = _
    rw [hleft]
    exact h.left
  · have hright := (Desk.Alike.refl t.1).answer_passive (moments t.2) hpassive
    change (Desk.answer _ _ _).2.orders.get? _ = _
    rw [hright]
    exact h.right

/-- A step that asks about neither orders nor money, between the look at an order and its
replacement. -/
theorem Owns.endAlike {α : Type} {V : α → Prop} {order : Order} {x : Service α}
    (h : Owns ids u order s t) (hx : Yields Request.IsPassive V x) :
    EndAlike (Peers ids u) (fun a s t => Owns ids u order s t ∧ V a)
      (x.run (Desk.answerAt moments) s) (x.run (Desk.answerAt moments) t) :=
  (hx.endAlike (fun _ _ _ hpassive h => h.answer hpassive) h).mono (fun _ _ h => h.peers)
    fun _ _ _ h => h

/-- A change of an order of the user is stored on both desks. -/
theorem Owns.endAlike_save {order changed : Order} (h : Owns ids u order s t)
    (hkey : changed.orderId = order.orderId) (report : Event) :
    let save : Service OrderView := do
      ofAnswer Cause.order (← ask (.saveIfStatus changed order.status))
      log report
      return changed.view
    EndAlike (Peers ids u) (fun _ => Peers ids u) (save.run (Desk.answerAt moments) s)
      (save.run (Desk.answerAt moments) t) := by
  intro save
  obtain ⟨d, n⟩ := s
  obtain ⟨e, k⟩ := t
  obtain rfl : n = k := h.peers.count
  simp only [save, run_bind (ask _), run_saveIfStatus (hkey ▸ h.left),
    run_saveIfStatus (hkey ▸ h.right)]
  refine .ok ⟨?_, h.peers.agrees.putOrder changed, rfl⟩
  exact ⟨h.peers.keyed.1.putOrder changed, h.peers.keyed.2.putOrder changed⟩

/-! ## The calls of a user -/

/-- A user places an order, as whom the form names. -/
theorem endAlike_place (h : Peers ids u s t) {form : OrderForm}
    (hby : Text.IsUsername (Text.trim form.username) → Text.trim form.username = u.text)
    (hdrawn : ∀ orderId : OrderId, orderId.IsDrawnFor u → ids orderId) :
    EndAlike (Peers ids u) (fun _ => Peers ids u) ((place form).run (Desk.answerAt moments) s)
      ((place form).run (Desk.answerAt moments) t) := by
  refine (place_asksOnly_of form (fun _ hpassive => hpassive.isDiscreet ids u) hby ?_).endAlike h
  intro order hname _ _ hplaces
  obtain ⟨-, howner, hdrawnFor⟩ := hplaces.owner
  obtain rfl : order.username = u := howner.trans (congrArg Username.mk (hby hname))
  exact ⟨rfl, hdrawn _ hdrawnFor⟩

/-- A user cancels an order. -/
theorem endAlike_cancel (h : Peers ids u s t) {orderId : String}
    (hsafe : s.1.IsSafe ids u ⟨orderId⟩) :
    EndAlike (Peers ids u) (fun _ => Peers ids u)
      ((cancel u.text orderId).run (Desk.answerAt moments) s)
      ((cancel u.text orderId).run (Desk.answerAt moments) t) := by
  have hlog : ∀ event, Request.IsPassive (.log event) := fun _ => trivial
  simp only [cancel, checkCancellation, bind_assoc, pure_bind]
  refine (endAlike_ownedOrder h hsafe).bind fun order s t h => ?_
  refine (h.endAlike (.ofExcept _ _)).bind fun _ s t h => ?_
  refine (h.1.endAlike (AsksOnly.ask trivial).yields).bind fun now s t h => ?_
  refine (h.1.endAlike (.ofAnswer hlog _ _)).bind fun changed s t h => ?_
  have hkey : changed.orderId = order.orderId := by
    rw [(Order.eq_withStatus_of_moveTo h.2).2]
    rfl
  exact h.1.endAlike_save hkey _

/-- A user changes the status of an order. -/
theorem endAlike_updateStatus (h : Peers ids u s t) {orderId : String}
    (hsafe : s.1.IsSafe ids u ⟨orderId⟩) (target : Status) :
    EndAlike (Peers ids u) (fun _ => Peers ids u)
      ((updateStatus orderId target (.user u.text)).run (Desk.answerAt moments) s)
      ((updateStatus orderId target (.user u.text)).run (Desk.answerAt moments) t) := by
  unfold updateStatus
  refine (endAlike_ownedOrder h hsafe).bind fun order s t h => ?_
  refine (h.endAlike (AsksOnly.ask trivial).yields).bind fun now s t h => ?_
  cases hmoved : moved (.user u.text) order target now with
  | error e =>
    have hrefused : AsksOnly (Request.IsDiscreet ids u) (log (.changeRejected orderId order.status
        target e) >>= fun _ => (refuse (.ofTransition e) : Service OrderView)) :=
      .bind (.ask trivial) fun _ => .refuse _
    exact hrefused.endAlike h.1.peers
  | ok changed =>
    have hkey : changed.orderId = order.orderId := by
      rw [(eq_withStatus_of_moved hmoved).2]
      rfl
    exact h.1.endAlike_save hkey _

/-- A user lists orders. -/
theorem endAlike_orders (h : Peers ids u s t) (defaultLimit : Nat) {query : ListingQuery}
    (hname : query.username = u.text) :
    EndAlike (Peers ids u) (fun _ => Peers ids u)
      ((orders defaultLimit query).run (Desk.answerAt moments) s)
      ((orders defaultLimit query).run (Desk.answerAt moments) t) := by
  have hcheck : EndAlike (Peers ids u) (fun user s t => Peers ids u s t ∧ user.username = u)
      ((checkListing u.text query.limit).run (Desk.answerAt moments) s)
      ((checkListing u.text query.limit).run (Desk.answerAt moments) t) := by
    unfold checkListing
    split
    · exact .error h
    · exact endAlike_requireUser h
  unfold orders
  rw [hname]
  refine hcheck.bind ?_
  rintro user s t ⟨h, howner⟩
  refine AsksOnly.endAlike (.bind (.ask howner) fun answer => ?_) h
  refine .bind (.ofAnswer (fun _ => trivial) _ answer) fun found => ?_
  exact .bind (.ask trivial) fun _ => .pure _

end Steps

end Service

/-! ## Calls -/

namespace Call

/-- The call is one **by** a user: the user is the actor, or is whom the form names if what it says
is a name at all. -/
def IsBy (u : Username) : Call → Prop
  | place form =>
    Text.IsUsername (Text.trim form.username) → Text.trim form.username = u.text
  | cancel username _ | order username _ => username = u.text
  | update _ _ actor => actor = .user u.text
  | orders query => query.username = u.text

/-- The order IDs that the call names are all of this kind. -/
def NamesOnly (P : OrderId → Prop) : Call → Prop
  | cancel _ orderId | update orderId _ _ | order _ orderId => P ⟨orderId⟩
  | place _ | orders _ => True

/-- A call that names order IDs of one kind only names those of a larger kind only. -/
theorem NamesOnly.mono {P P' : OrderId → Prop} {call : Call} (h : call.NamesOnly P)
    (himp : ∀ orderId, P orderId → P' orderId) : call.NamesOnly P' := by
  cases call with
  | cancel | update | order => exact himp _ h
  | place | orders => trivial

/-- **A call of a user ends alike** on two desks that agree for the user, if it matters of all order
IDs that are drawn for the user whether they are taken, and the call names safe order IDs only. The
desks agree for the user again afterwards. -/
theorem endAlike_of_agreesFor (defaultLimit : Nat) (moments : Nat → Moment)
    {ids : OrderId → Prop} {u : Username} {s t : Desk × Nat} {call : Call} (hby : call.IsBy u)
    (hdrawn : ∀ orderId : OrderId, orderId.IsDrawnFor u → ids orderId)
    (hnames : call.NamesOnly (s.1.IsSafe ids u)) (h : Peers ids u s t) :
    Service.EndAlike (Peers ids u) (fun _ => Peers ids u)
      ((call.service defaultLimit).run (Desk.answerAt moments) s)
      ((call.service defaultLimit).run (Desk.answerAt moments) t) := by
  cases call with
  | place form => exact (Service.endAlike_place h hby hdrawn).bind fun view s t h => .ok h
  | cancel username orderId =>
    obtain rfl : username = u.text := hby
    exact (Service.endAlike_cancel h hnames).bind fun view s t h => .ok h
  | update orderId target actor =>
    obtain rfl : actor = .user u.text := hby
    exact (Service.endAlike_updateStatus h hnames target).bind fun view s t h => .ok h
  | order username orderId =>
    obtain rfl : username = u.text := hby
    refine Service.EndAlike.bind (Q := fun _ => Peers ids u) ?_ fun view s t h => .ok h
    exact (Service.endAlike_ownedOrder h hnames).bind fun order s t h => .ok h.peers
  | orders query =>
    exact (Service.endAlike_orders h defaultLimit hby).bind fun listing s t h => .ok h

end Call

end OrderDesk
