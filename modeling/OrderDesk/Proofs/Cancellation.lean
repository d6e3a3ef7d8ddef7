import OrderDesk.Desk.Fault
import OrderDesk.Proofs.Call
import OrderDesk.Proofs.Placing
import OrderDesk.Proofs.Shortage

/-!
# Two ways to cancel an order

A user cancels an order by asking for a cancellation or by asking for the status `CANCELLED`. The
two calls are written apart: a cancellation is checked before the clock is read and again by the
order itself, a change of status only once and after the clock. They come to the same, whatever the
stores answer and whoever else changes them in the meantime.

## Main definitions

* `OrderDesk.Handler.IsStill` — surroundings that neither the clock nor the log changes.
* `OrderDesk.Desk.answerAmid` — the desk amid the work of others.

## Main results

* `OrderDesk.Service.run_cancel_eq` — in still surroundings the two calls come to the same.
* `OrderDesk.Service.cancellations_agree` — they do on the desk, amid others, and under faults.
-/

set_option autoImplicit false

namespace OrderDesk

/-! ## Still surroundings -/

/-- The surroundings are **still**: they do not change when the clock is read or an event is
reported. -/
structure Handler.IsStill {σ : Type} (h : Handler σ) : Prop where
  clock : ∀ s, (h .clock s).2 = s
  log : ∀ event s, (h (.log event) s).2 = s

namespace Desk

/-- The desk **amid others**: before each look at a store and each change of one, the others have
done to the desk whatever they like. Each answer has a moment of its own. -/
def answerAmid (others : Nat → Desk → Desk) (moments : Nat → Moment) : Handler (Desk × Nat)
  | .clock, (d, n) => ((moments n).now, d, n)
  | .log _, s => ((), s)
  | request, (d, n) =>
    let (answer, d) := Desk.answer (moments n) request (others n d)
    (answer, d, n + 1)

/-- The desk is still. -/
theorem isStill_answer (m : Moment) : (Desk.answer m).IsStill :=
  ⟨fun _ => rfl, fun _ _ => rfl⟩

/-- Amid others it is still where the stores are not asked. -/
theorem isStill_answerAmid (others : Nat → Desk → Desk) (moments : Nat → Moment) :
    (answerAmid others moments).IsStill :=
  ⟨fun _ => rfl, fun _ _ => rfl⟩

end Desk

/-- Faults do not set in when the clock is read or an event is reported. -/
theorem FaultyDesk.isStill_answer (m : Moment) : (FaultyDesk.answer m).IsStill :=
  ⟨fun _ => rfl, fun _ _ => rfl⟩

namespace Service

section Still

variable {σ α β : Type} {h : Handler σ}

/-- What follows a step may be exchanged for what runs the same. -/
theorem run_bind_congr {x : Service α} {f g : α → Service β}
    (hfg : ∀ a s, (f a).run h s = (g a).run h s) (s : σ) :
    (x >>= f).run h s = (x >>= g).run h s := by
  rw [run_bind, run_bind]
  rcases x.run h s with ⟨r, between⟩
  cases r with
  | ok a => exact hfg a between
  | error e => rfl

/-- A reading of the clock before the rest. -/
theorem run_clock_bind (hstill : h.IsStill) (f : Instant → Service α) (s : σ) :
    (clock >>= f).run h s = (f (h .clock s).1).run h s := by
  have hclock : clock.run h s = (.ok (h .clock s).1, (h .clock s).2) := rfl
  rw [run_bind, hclock, hstill.clock]

/-- A report before the rest makes no difference. -/
theorem run_log_bind (hstill : h.IsStill) (event : Event) (f : Unit → Service α) (s : σ) :
    (log event >>= f).run h s = (f ()).run h s := by
  have hlog : (log event).run h s = (.ok (), (h (.log event) s).2) := rfl
  rw [run_bind, hlog, hstill.log]

end Still

/-! ## The two calls -/

/-- A user moves an order to the status `CANCELLED` just as the user cancels it. -/
theorem moved_cancelled (username : String) (order : Order) (now : Instant) :
    moved (.user username) order .cancelled now = order.cancelByUser now := by
  simp [moved, Order.cancelByUser, Actor.isSystem]

/-- **A cancellation is a change of status.** In still surroundings the two calls of a user have the
same result and leave the surroundings in the same state.

**Proof sketch.** Both begin with the same look at the order. If the order may not be cancelled, the
one ends before the clock is read and the other one after it and after a report, with the same
refusal; if it may, both ask for the same replacement and differ in their reports alone. -/
theorem run_cancel_eq {σ : Type} {h : Handler σ} (hstill : h.IsStill) (username orderId : String)
    (s : σ) :
    (cancel username orderId).run h s =
      (updateStatus orderId .cancelled (.user username)).run h s := by
  simp only [cancel, checkCancellation, updateStatus, orderFor, bind_assoc, pure_bind]
  refine run_bind_congr (fun order s => ?_) s
  rw [run_clock_bind hstill, moved_cancelled]
  cases hauthority : order.status.authorize .cancelled true false with
  | error e =>
    have hrefused : order.cancelByUser (h .clock s).1 = .error e := by
      rw [Order.cancelByUser, Order.moveTo, hauthority]
    rw [hrefused, run_log_bind hstill]
    rfl
  | ok _ =>
    have hgranted : order.cancelByUser (h .clock s).1 =
        .ok (order.withStatus .cancelled (h .clock s).1) := by
      rw [Order.cancelByUser, Order.moveTo, hauthority]
    rw [ofExcept, pure_bind, run_clock_bind hstill, hgranted, ofAnswer, pure_bind]
    refine run_bind_congr (fun saved s => run_bind_congr (fun _ s => ?_) s) s
    rw [run_log_bind hstill, run_log_bind hstill]

/-- **The two ways to cancel an order agree.** A cancellation and a change to the status
`CANCELLED`, asked for by the same user about the same order ID, have the same result, and they
leave the same stores: on the desk, on the desk amid others who change orders between the look at
the order and its replacement, and on a desk whose stores fail. -/
theorem cancellations_agree (username orderId : String) :
    (∀ m d, (cancel username orderId).run (Desk.answer m) d =
      (updateStatus orderId .cancelled (.user username)).run (Desk.answer m) d) ∧
    (∀ others moments d n, (cancel username orderId).run (Desk.answerAmid others moments) (d, n) =
      (updateStatus orderId .cancelled (.user username)).run
        (Desk.answerAmid others moments) (d, n)) ∧
    (∀ m f, (cancel username orderId).run (FaultyDesk.answer m) f =
      (updateStatus orderId .cancelled (.user username)).run (FaultyDesk.answer m) f) :=
  ⟨fun m => run_cancel_eq (Desk.isStill_answer m) username orderId,
    fun others moments d n =>
      run_cancel_eq (Desk.isStill_answerAmid others moments) username orderId (d, n),
    fun m => run_cancel_eq (FaultyDesk.isStill_answer m) username orderId⟩

/-- A rival who fails the order between the look at it and its replacement is noticed by both. -/
example :
    let d := (Desk.small.putOrder .small)
    let rival (n : Nat) (d : Desk) : Desk :=
      if n = 2 then d.putOrder (Order.small.withStatus .failed (.ofSeconds 1700000001)) else d
    let surroundings := Desk.answerAmid rival fun n => .small n
    let orderId := Order.small.orderId.text
    let refused : Except (Failure ServiceError) OrderView := .error (.error (.validation
      "Order ord_1700000000_abcd1234_alice is no longer PENDING (now FAILED)"))
    ((cancel "alice" orderId).run surroundings (d, 0)).1 = refused ∧
      ((updateStatus orderId .cancelled (.user "alice")).run surroundings (d, 0)).1 = refused := by
  decide +kernel

end Service

end OrderDesk
