import OrderDesk.Proofs.Point

/-!
# Orders that cost more than there is

An order that costs more than there is is turned away with its value and the money that is there.
On a desk that nobody else uses it is the look at the balance that turns it away, before the commit.

## Main definitions

* `OrderDesk.Service.precheck` — all checks of a new order that come before its commit.

## Main results

* `OrderDesk.Desk.short_of_commit` — what a commit says that turns an order away.
* `OrderDesk.Service.precheck_of_shortage` — on its own, a call is turned away by its checks.
-/

set_option autoImplicit false

namespace OrderDesk

variable {m : Moment} {d d' : Desk} {required available : Decimal}

/-! ## Commits -/

/-- A commit turns an order away for want of money only if it buys and costs more than there is. -/
theorem Desk.short_of_commit {side : Side} {order : Order}
    (h : (d.commit m side order).1 = .error (.error (.insufficientBalance required available))) :
    side = .buy ∧ (d.balanceOf order.username m.now).current < order.totalAmount := by
  have hofBalance : ∀ r : Except (Failure DomainError) Balance,
      ofBalance r ≠ .error (.error (.insufficientBalance required available)) := by
    intro r hr
    match r with
    | .ok _ | .error .sumOverflow | .error (.error _) => cases hr
  have hpersist : d.persist order ≠ .error (.error (.insufficientBalance required available)) := by
    intro hp
    unfold persist at hp
    split at hp <;> cases hp
  simp only [commit, settle] at h
  cases hstalled : m.stalled with
  | some ms =>
    rw [hstalled] at h
    cases h
  | none =>
    rw [hstalled] at h
    cases hcharge : charge side (d.balanceOf order.username m.now) order.totalAmount m.now with
    | ok balance =>
      rw [hcharge] at h
      cases hstored : d.persist order with
      | ok stored =>
        simp only [hstored, bind, Except.bind, pure, Except.pure] at h
        cases h
      | error e =>
        simp only [hstored, bind, Except.bind] at h
        exact absurd (Except.error.inj h ▸ hstored) hpersist
    | error e =>
      rw [hcharge] at h
      simp only [bind, Except.bind] at h
      obtain rfl := Except.error.inj h
      cases side with
      | sell => exact absurd hcharge (hofBalance _)
      | buy =>
        refine ⟨rfl, ?_⟩
        by_cases hcovers : (d.balanceOf order.username m.now).covers order.totalAmount = true
        · simp only [charge, hcovers, Bool.not_true, Bool.false_eq_true, if_false] at hcharge
          exact absurd hcharge (hofBalance _)
        · simpa [Balance.covers, Decimal.not_le] using hcovers

/-! ## Runs of services -/

namespace Service

section Runs

variable {σ α β : Type} {h : Handler σ} {s s' : σ}

/-- One step after another. -/
theorem run_bind (x : Service α) (f : α → Service β) :
    (x >>= f).run h s = match x.run h s with
      | (.ok a, s') => (f a).run h s'
      | (.error e, s') => (.error e, s') := by
  refine (Program.run_andThen h (ExceptT.run x) (ExceptT.bindCont f) s).trans ?_
  change _ = match Program.run h (ExceptT.run x) s with
    | (.ok a, s') => (f a).run h s'
    | (.error e, s') => (.error e, s')
  rcases Program.run h (ExceptT.run x) s with ⟨r, s'⟩
  cases r <;> rfl

/-- A failure of two steps is a failure of the first one or of the second one. -/
theorem run_bind_error {x : Service α} {f : α → Service β} {e : Failure ServiceError}
    (hrun : (x >>= f).run h s = (.error e, s')) :
    x.run h s = (.error e, s') ∨
      ∃ a between, x.run h s = (.ok a, between) ∧ (f a).run h between = (.error e, s') := by
  rw [run_bind] at hrun
  rcases hx : x.run h s with ⟨r, between⟩
  rw [hx] at hrun
  cases r with
  | ok a => exact .inr ⟨a, between, rfl, hrun⟩
  | error e' =>
    cases hrun
    exact .inl rfl

end Runs

/-- The look at the balance turns away an order that buys and costs more than there is. -/
theorem run_afford (hm : m.stalled = none) (o : Offer) :
    (afford o).run (Desk.answer m) d =
      (if o.IsShort (d.balances.get? o.request.username) then
        .error (.error (o.shortage (d.balances.get? o.request.username)))
      else .ok ((d.balances.get? o.request.username).elim .zero Balance.current), d) := by
  obtain ⟨next, hrun, hnext⟩ := exists_run_afford o pure
  rw [bind_pure] at hrun
  unfold Service.run
  rw [hrun, Program.run, Desk.answer_findBalance hm]
  dsimp only
  rw [hnext]
  split <;> rfl

/-! ## The checks before the commit -/

/-- All checks of a new order that come before it is made and committed. -/
def precheck (form : OrderForm) : Service Unit := do
  let now ← clock
  let request ← field (form.check now)
  let price ← effectivePrice request
  let _ ← reporting (.orderRejected request.username request.assetId request.orderType)
    (checkPlacement request.username request.assetId request.orderType request.quantity price)
  return ()

/-- The checks are the first two parts of placing an order. -/
theorem precheck_eq (form : OrderForm) :
    precheck form = offer form >>= fun o => afford o >>= fun _ => pure () := by
  unfold precheck offer afford
  simp only [bind_assoc]
  refine bind_congr fun now => bind_congr fun request => bind_congr fun price => ?_
  rw [show Event.orderRejected request.username request.assetId request.orderType =
    rejection request from rfl, reporting_checkPlacement]
  simp only [bind_assoc, pure_bind]

/-- What a client is told about an order that the rules or the store refuse is no matter of
money. -/
theorem run_fail_order {α : Type} (e : OrderError) :
    ((fail (.order e) : Service α).run (Desk.answer m) d).1 ≠
      .error (.error (.insufficientBalance required available)) := by
  intro h
  match e with
  | .transition (.invalidTransition ..) | .transition (.systemOnly _) => cases h
  | .transition (.cancellationNotAllowed _) => cases h
  | .ruleViolations _ | .notFound _ | .statusConflict .. => cases h
  | .duplicateOrderId _ | .persistence _ => cases h

/-- An order is turned away by its commit. -/
theorem commit_of_run_book {order : Order} (h : ((book order).run (Desk.answer m) d).1 =
    .error (.error (.insufficientBalance required available))) :
    (d.commit m order.side order).1 =
      .error (.error (.insufficientBalance required available)) := by
  obtain ⟨⟨r, d'⟩, hr⟩ : ∃ r, d.commit m order.side order = r := ⟨_, rfl⟩
  change (Program.run (Desk.answer m) (.ask (.commit order.side order) _) d).1 = _ at h
  rw [Program.run, show Desk.answer m (.commit order.side order) d = (r, d') from hr] at h
  rw [hr]
  cases r with
  | ok settlement => cases h
  | error failure =>
    cases failure with
    | sumOverflow => cases h
    | error e =>
      cases e with
      | insufficientBalance =>
        cases h
        rfl
      | lockAcquisition | databaseOperation => cases h

/-- The last part turns an order away only if the order buys and costs more than there is.

**Proof sketch.** The rules on orders say nothing of balances. So it is the commit that turns the
order away, and the order that is committed has the value of the offer. -/
theorem isShort_of_receipt {o : Offer} (h : ((receipt o).run (Desk.answer m) d).1 =
    .error (.error (.insufficientBalance required available))) :
    o.IsShort (d.balances.get? o.request.username) := by
  unfold Service.run at h
  rw [receipt_run] at h
  cases hplace : Order.place o.request o.price o.now m.now m.token with
  | error e =>
    rw [hplace] at h
    exact absurd h (run_fail_order e)
  | ok order =>
    rw [hplace] at h
    exact (Offer.isShort_iff d hplace).2 (Desk.short_of_commit (commit_of_run_book h))

/-- On its own, a call that is turned away for want of money is turned away by its checks.

**Proof sketch.** If the first part fails or the balance is found wanting, this is what the checks
end with. If the balance covers the order, so does it when the order is committed, since nothing has
happened to it in between. -/
theorem precheck_of_shortage (hm : m.stalled = none) {defaultLimit : Nat} {form : OrderForm}
    (h : (((Call.place form).program defaultLimit).run (Desk.answer m) d).1 =
      .error (.error (.insufficientBalance required available))) :
    ((precheck form).run (Desk.answer m) d).1 =
      .error (.error (.insufficientBalance required available)) := by
  rw [form.program_eq] at h
  rcases hrun : (offer form >>= fun o => afford o >>= fun _ => receipt o).run (Desk.answer m) d
    with ⟨r, d'⟩
  obtain rfl : r = .error (.error (.insufficientBalance required available)) := by
    rw [← h]
    exact (congrArg Prod.fst hrun).symm
  rw [precheck_eq, run_bind]
  obtain hoffer | ⟨o, between, hoffer, hrun⟩ := run_bind_error hrun
  · rw [hoffer]
  rw [hoffer]
  dsimp only
  rw [run_bind]
  obtain hafford | ⟨balance, later, hafford, hrun⟩ := run_bind_error hrun
  · rw [hafford]
  rw [run_afford hm] at hafford
  split at hafford
  · cases hafford
  · next hcovered =>
    cases hafford
    exact absurd (isShort_of_receipt (congrArg Prod.fst hrun)) hcovered

end Service

end OrderDesk
