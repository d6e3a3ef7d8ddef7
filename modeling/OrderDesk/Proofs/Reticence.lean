import OrderDesk.Desk.Fault
import OrderDesk.Proofs.Outage
import OrderDesk.Proofs.Traffic.Basic

/-!
# What clients learn of failures

A store that fails says how it has failed. This is reported, but not told: if two surroundings
differ in nothing but such details, all calls have the same replies in both. A failure behind the
service ends the call that meets it, and the client is told that the service is not available.

## Main definitions

* `OrderDesk.Handler.SameButDetails` — two surroundings that differ in details of failures only.
* `OrderDesk.Program.turns` — programs that are answered in turns.
* `OrderDesk.Program.exchanges` — all that a program asks, with the answers.

## Main results

* `OrderDesk.Program.InStep.run`, `OrderDesk.Program.InStep.turns` — programs in step, in two such
  surroundings.
* `OrderDesk.Program.InStep.ends_of_fails` — what follows a failure.
* `OrderDesk.FaultyDesk.sameButDetails_answer` — desks whose faults differ in details are such
  surroundings.
* `OrderDesk.Call.details_undisclosed` — what clients are told does not depend on details.
-/

set_option autoImplicit false

namespace OrderDesk

/-! ## Surroundings that differ in details -/

/-- Two surroundings **differ in details only**: in states that are tied by `R` they answer every
request the same, but for the details of failures, and go on to such states; what they do with a
report does not depend on the details in it. -/
structure Handler.SameButDetails {σ τ : Type} (R : σ → τ → Prop) (h : Handler σ) (h' : Handler τ) :
    Prop where
  answer : ∀ request s t, R s t →
    request.redact (h request s).1 = request.redact (h' request t).1 ∧
      R (h request s).2 (h' request t).2
  report : ∀ event event' s t, event.redacted = event'.redacted → R s t →
    R (h (.log event) s).2 (h' (.log event') t).2

namespace Program

variable {σ τ α : Type}

/-- The next request of a program is answered, if it has not ended. -/
def step (h : Handler σ) : Program α → σ → Program α × σ
  | done a, s => (done a, s)
  | ask request next, s => (next (h request s).1, (h request s).2)

/-- Programs that are answered **in turns**: the schedule says whose turn it is. -/
def turns (h : Handler σ) : List Nat → (Nat → Program α) → σ → (Nat → Program α) × σ
  | [], programs, s => (programs, s)
  | i :: schedule, programs, s =>
    let (p, s) := (programs i).step h s
    turns h schedule (Function.update programs i p) s

/-- The result of a program that has ended. -/
def result? : Program α → Option α
  | done a => some a
  | ask .. => none

/-- All that a program asks, with the answers. -/
def exchanges (h : Handler σ) : Program α → σ → List Exchange
  | done _, _ => []
  | ask request next, s =>
    ⟨request, (h request s).1⟩ :: (next (h request s).1).exchanges h (h request s).2

end Program

/-- The exchange is a failure behind the service. -/
def Exchange.fails (x : Exchange) : Bool :=
  x.request.fails x.answer

/-- The request reports an event. -/
def Request.IsReport : Request → Prop
  | log _ => True
  | clock | token | findUser _ | findAsset _ | findBalance _ | findOrder _ | ordersOf ..
  | saveIfStatus .. | commit .. => False

/-! ## Programs in step -/

namespace Program.InStep

variable {σ τ α : Type} {R : σ → τ → Prop} {h : Handler σ} {h' : Handler τ} {failed : Bool}
  {p q : Program (Except (Failure ServiceError) α)}

/-- A step leaves programs in step. -/
theorem step (hsame : h.SameButDetails R h') (hp : InStep failed p q) {s : σ} {t : τ}
    (hst : R s t) :
    (∃ failed, InStep failed (p.step h s).1 (q.step h' t).1) ∧
      R (p.step h s).2 (q.step h' t).2 := by
  cases hp with
  | ended hr => exact ⟨⟨false, .ended hr⟩, hst⟩
  | unavailable => exact ⟨⟨true, .unavailable⟩, hst⟩
  | log hevent hnext => exact ⟨⟨failed, hnext⟩, hsame.report _ _ s t hevent hst⟩
  | @ask request _ _ hnext =>
    obtain ⟨hanswer, hafter⟩ := hsame.answer request s t hst
    exact ⟨⟨_, hnext _ _ hanswer⟩, hafter⟩

/-- Programs in step have the **same result**. -/
theorem run (hsame : h.SameButDetails R h') (hp : InStep failed p q) {s : σ} {t : τ}
    (hst : R s t) : (p.run h s).1 = (q.run h' t).1 ∧ R (p.run h s).2 (q.run h' t).2 := by
  induction hp generalizing s t with
  | ended => exact ⟨rfl, hst⟩
  | unavailable => exact ⟨rfl, hst⟩
  | log hevent _ ih => exact ih (hsame.report _ _ s t hevent hst)
  | @ask request _ _ _ ih =>
    obtain ⟨hanswer, hafter⟩ := hsame.answer request s t hst
    exact ih _ _ hanswer hafter

/-- Programs in step have ended with the same result, or have not ended yet. -/
theorem result?_eq (hp : InStep failed p q) : p.result? = q.result? := by
  cases hp <;> rfl

/-- Programs in step stay so if they are answered **in turns** with others. -/
theorem turns (hsame : h.SameButDetails R h') (schedule : List Nat)
    {ps qs : Nat → Program (Except (Failure ServiceError) α)}
    (hp : ∀ i, ∃ failed, InStep failed (ps i) (qs i)) {s : σ} {t : τ} (hst : R s t) :
    (∀ i, ∃ failed, InStep failed ((Program.turns h schedule ps s).1 i)
      ((Program.turns h' schedule qs t).1 i)) ∧
      R (Program.turns h schedule ps s).2 (Program.turns h' schedule qs t).2 := by
  induction schedule generalizing ps qs s t with
  | nil => exact ⟨hp, hst⟩
  | cons k schedule ih =>
    obtain ⟨_, hk⟩ := hp k
    obtain ⟨hstep, hafter⟩ := hk.step hsame hst
    have hnext (i : Nat) : ∃ failed, InStep failed (Function.update ps k ((ps k).step h s).1 i)
        (Function.update qs k ((qs k).step h' t).1 i) := by
      by_cases hi : i = k
      · subst hi
        simpa only [Function.update_self] using hstep
      · simpa only [Function.update_of_ne hi] using hp i
    exact ih hnext hafter

/-- After a failure there are only reports, and the end is that of a service that is not
available. -/
theorem ends_of_failed (hp : InStep failed p q) (hfailed : failed = true) (s : σ) :
    (∀ x ∈ p.exchanges h s, x.request.IsReport) ∧
      (p.run h s).1 = .error (.error .unavailable) := by
  induction hp generalizing s with
  | ended => cases hfailed
  | unavailable => exact ⟨fun _ hx => absurd hx List.not_mem_nil, rfl⟩
  | log _ _ ih =>
    obtain ⟨hreports, hend⟩ := ih hfailed (h (.log _) s).2
    exact ⟨List.forall_mem_cons.2 ⟨trivial, hreports⟩, hend⟩
  | ask => cases hfailed

/-- **A failure behind the service** is followed by reports alone, and by the end of a service that
is not available. -/
theorem ends_of_fails (hp : InStep failed p q) {s : σ} {before after : List Exchange}
    {x : Exchange} (hx : p.exchanges h s = before ++ x :: after) (hfails : x.fails = true) :
    (∀ later ∈ after, later.request.IsReport) ∧
      (p.run h s).1 = .error (.error .unavailable) := by
  induction hp generalizing s before with
  | ended => simp [exchanges] at hx
  | unavailable => simp [exchanges] at hx
  | log hevent _ ih =>
    cases before with
    | nil =>
      obtain ⟨rfl, -⟩ := List.cons.inj hx
      cases hfails
    | cons y before => exact ih (List.cons.inj hx).2
  | @ask request _ _ hnext ih =>
    cases before with
    | nil =>
      obtain ⟨rfl, rfl⟩ := List.cons.inj hx
      exact (hnext _ _ rfl).ends_of_failed hfails _
    | cons y before => exact ih _ _ rfl (List.cons.inj hx).2

end Program.InStep

/-! ## Desks whose faults differ in details -/

/-- The fault without its details. -/
def LookupFault.redacted (fault : LookupFault) : LookupFault :=
  { fault with detail := "" }

/-- The fault without its details, if it has any. -/
def OrderFault.redacted : OrderFault → OrderFault
  | persistence _ => persistence ""
  | fault => fault

/-- The faults without their details. -/
def Faults.redacted (faults : Faults) : Faults :=
  { faults with
    users := faults.users.map LookupFault.redacted
    assets := faults.assets.map LookupFault.redacted
    balances := faults.balances.map LookupFault.redacted
    transactions := faults.transactions.map TransactionError.redacted
    orderRead := faults.orderRead.map OrderFault.redacted
    orderWrite := faults.orderWrite.map OrderFault.redacted }

namespace FaultyDesk

/-- The desk without the details of its faults. -/
def redacted (f : FaultyDesk) : FaultyDesk :=
  { f with faults := f.faults.redacted }

/-- The details of a fault are nothing but details of a lookup. -/
theorem lookup_redacted {α : Type} (fault : Option LookupFault) (answer : Except LookupError α) :
    (lookup (fault.map LookupFault.redacted) answer).1.mapError LookupError.redacted =
        (lookup fault answer).1.mapError LookupError.redacted ∧
      (lookup (fault.map LookupFault.redacted) answer).2 =
        (lookup fault answer).2.map LookupFault.redacted := by
  match fault with
  | none => exact ⟨rfl, rfl⟩
  | some ⟨_, 0⟩ => exact ⟨rfl, rfl⟩
  | some ⟨_, n + 1⟩ => exact ⟨rfl, rfl⟩

/-- The error of a fault without its details is that of the fault, without its details. -/
theorem error_redacted (fault : OrderFault) (asked : String) :
    (fault.redacted.error asked).redacted = (fault.error asked).redacted := by
  cases fault <;> rfl

/-- The details of faults are nothing but details of answers. -/
theorem answer_redacted (m : Moment) (request : Request) (f : FaultyDesk) :
    request.redact (answer m request f.redacted).1 = request.redact (answer m request f).1 ∧
      (answer m request f.redacted).2 = (answer m request f).2.redacted := by
  obtain ⟨desk, users, assets, balances, stale, transactions, orderRead, orderWrite, race⟩ := f
  cases request with
  | clock | token | log => exact ⟨rfl, rfl⟩
  | findUser username =>
    obtain ⟨hanswer, hleft⟩ := lookup_redacted users (.ok (desk.users.get? ⟨username⟩))
    exact ⟨hanswer, by simp [answer, redacted, Faults.redacted, hleft]⟩
  | findAsset assetId =>
    obtain ⟨hanswer, hleft⟩ := lookup_redacted assets (.ok (desk.assets.get? assetId))
    exact ⟨hanswer, by simp [answer, redacted, Faults.redacted, hleft]⟩
  | findBalance username =>
    let f : FaultyDesk :=
      ⟨desk, users, assets, balances, stale, transactions, orderRead, orderWrite, race⟩
    obtain ⟨hanswer, hleft⟩ := lookup_redacted balances (f.balance m ⟨username⟩)
    exact ⟨hanswer, congrArg (fun left => { f.redacted with
      faults := { f.redacted.faults with balances := left } }) hleft⟩
  | findOrder orderId =>
    cases orderRead with
    | none => exact ⟨rfl, rfl⟩
    | some fault => exact ⟨congrArg Except.error (error_redacted fault _), rfl⟩
  | ordersOf owner status limit =>
    cases orderRead with
    | none => exact ⟨rfl, rfl⟩
    | some fault => exact ⟨congrArg Except.error (error_redacted fault _), rfl⟩
  | saveIfStatus order expected =>
    cases orderWrite with
    | none => exact ⟨rfl, rfl⟩
    | some fault => exact ⟨congrArg Except.error (error_redacted fault _), rfl⟩
  | commit side order =>
    cases transactions with
    | none => exact ⟨rfl, rfl⟩
    | some e => cases e <;> exact ⟨rfl, rfl⟩

/-- **Desks whose faults differ in details** are surroundings that do. -/
theorem sameButDetails_answer (m : Moment) :
    Handler.SameButDetails (fun f g : FaultyDesk => f.redacted = g.redacted) (answer m)
      (answer m) where
  answer request f g h := by
    obtain ⟨hf, hf'⟩ := answer_redacted m request f
    obtain ⟨hg, hg'⟩ := answer_redacted m request g
    exact ⟨by rw [← hf, ← hg, h], by rw [← hf', ← hg', h]⟩
  report _ _ _ _ _ h := h

end FaultyDesk

/-! ## Calls -/

/-- **Clients are told no details of failures.** Let two surroundings differ in such details only.
Then every call has the same reply in both, alone and in turns with any others. In any surroundings
a failure behind the service is the end of the call that meets it: the call asks nothing more, but
for reports, and the client is told that the service is not available.

**Proof sketch.** A call is in step with itself: whatever it does with the details of a failure, it
reports them and ends. Programs in step stay so in the two surroundings, request by request. -/
theorem Call.details_undisclosed (defaultLimit : Nat) {σ τ : Type} {R : σ → τ → Prop}
    {h : Handler σ} {h' : Handler τ} (hsame : h.SameButDetails R h') {s : σ} {t : τ}
    (hst : R s t) :
    (∀ call : Call,
      ((call.program defaultLimit).run h s).1 = ((call.program defaultLimit).run h' t).1 ∧
        R ((call.program defaultLimit).run h s).2 ((call.program defaultLimit).run h' t).2) ∧
    (∀ (calls : Nat → Call) (schedule : List Nat) (i : Nat),
      let programs (i : Nat) := (calls i).program defaultLimit
      ((Program.turns h schedule programs s).1 i).result? =
        ((Program.turns h' schedule programs t).1 i).result?) ∧
    ∀ {υ : Type} (surroundings : Handler υ) (u : υ) (call : Call) (before after : List Exchange)
      (x : Exchange),
      (call.program defaultLimit).exchanges surroundings u = before ++ x :: after →
      x.fails = true →
      (∀ later ∈ after, later.request.IsReport) ∧
        ((call.program defaultLimit).run surroundings u).1 =
          .error (.error (.internal "Service temporarily unavailable")) := by
  have hcall (call : Call) :
      Program.InStep false (call.program defaultLimit) (call.program defaultLimit) :=
    call.reticent_service defaultLimit
  refine ⟨fun call => (hcall call).run hsame hst, fun calls schedule i => ?_,
    fun _ _ call _ _ _ hx hfails => (hcall call).ends_of_fails hx hfails⟩
  obtain ⟨hturns, -⟩ := Program.InStep.turns hsame schedule (fun i => ⟨_, hcall (calls i)⟩) hst
  obtain ⟨_, hi⟩ := hturns i
  exact hi.result?_eq

/-- Two desks cannot reach their balances, each for a reason of its own. Alice orders and is told
the same by both, alone and in turns with somebody who lists orders; nothing is asked after the
balance. -/
theorem Call.details_undisclosed_of_lost_balances :
    let faulty (detail : String) : FaultyDesk :=
      { desk := Desk.small, faults := { Faults.none with balances := some ⟨detail, 0⟩ } }
    let f := faulty "connection to 10.0.0.7 refused"
    let g := faulty "mutex 0x7f is poisoned"
    let h : Handler FaultyDesk := FaultyDesk.answer (.small 1)
    let order : Call := .place
      { username := "alice", orderType := .marketBuy, assetId := "BTC", quantity := 1,
        orderPrice := none, expiresAt := none }
    let list : Call := .orders { username := "alice", status := none, limit := none }
    let calls (i : Nat) : Call := if i = 0 then order else list
    let schedule := [0, 1, 0, 0, 1, 0, 0, 0, 1, 0]
    let programs (i : Nat) := (calls i).program 50
    let unavailable : Reply := .error (.error (.internal "Service temporarily unavailable"))
    (f ≠ g ∧ f.redacted = g.redacted) ∧
      ((order.program 50).run h f).1 = unavailable ∧
      ((order.program 50).run h f).1 = ((order.program 50).run h g).1 ∧
      ((Program.turns h schedule programs f).1 0).result? = some unavailable ∧
      ((Program.turns h schedule programs f).1 0).result? =
        ((Program.turns h schedule programs g).1 0).result? ∧
      ∃ before after,
        (order.program 50).exchanges h f =
          before ++ ⟨.findBalance "alice", .error ⟨"connection to 10.0.0.7 refused"⟩⟩ :: after ∧
        ∀ later ∈ after, later.request.IsReport := by
  intro faulty f g h order list calls schedule programs unavailable
  have hsame := FaultyDesk.sameButDetails_answer (.small 1)
  have hst : f.redacted = g.redacted := rfl
  obtain ⟨halone, hturns, hends⟩ := details_undisclosed 50 hsame hst
  have hexchanges : (order.program 50).exchanges h f =
      ((order.program 50).exchanges h f).take 4 ++
        ⟨.findBalance "alice", .error ⟨"connection to 10.0.0.7 refused"⟩⟩ ::
        ((order.program 50).exchanges h f).drop 5 := by
    rfl
  obtain ⟨hreports, hreply⟩ := hends h f order _ _ _ hexchanges rfl
  have hdiffer : f ≠ g := fun hfg =>
    absurd (congrArg (fun f => f.faults.balances.map LookupFault.detail) hfg) (by decide)
  exact ⟨⟨hdiffer, hst⟩, hreply, (halone order).1, rfl, hturns calls schedule 0, _, _, hexchanges,
    hreports⟩

end OrderDesk
