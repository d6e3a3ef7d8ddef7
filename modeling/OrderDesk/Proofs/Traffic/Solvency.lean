import OrderDesk.Proofs.Call
import OrderDesk.Proofs.Rounding
import OrderDesk.Proofs.Traffic.Basic

/-!
# Balances are never overdrawn

No balance ever falls below zero, whatever the calls ask and in whatever order they go on. The look
at a balance before a commit is stale by the time of the commit; what counts is that the commit
computes the new balance from the one that is there while it has the lock, refuses negative amounts
and amounts that are not covered, and that rounding never takes a difference past zero.

## Main definitions

* `OrderDesk.Desk.Solvent` — no stored balance is negative.
* `OrderDesk.Choice.SetsNoDebt` — no balance is set below zero from outside.

## Main results

* `OrderDesk.Desk.Solvent.charge` — a balance that is charged does not fall below zero.
* `OrderDesk.Desk.Solvent.answer` — answering any request overdraws no balance.
* `OrderDesk.Traffic.solvent_play` — in every run no stored balance is negative.

## Design

The calls are arbitrary programs. Those of the service are among them, and so are commits of orders
that no check has seen, with any value and on either side.
-/

set_option autoImplicit false

namespace OrderDesk

namespace Desk

/-- The desk is **solvent**: no stored balance is negative. -/
def Solvent (d : Desk) : Prop :=
  ∀ username balance, d.balances.get? username = some balance → Decimal.zero ≤ balance.current

variable {d : Desk}

/-- A desk without balances is solvent. -/
theorem solvent_of_empty (h : d.balances = .empty) : d.Solvent := by
  intro username balance hget
  rw [h] at hget
  cases hget

namespace Solvent

/-- A balance that is not negative may be put. -/
theorem putBalance (hd : d.Solvent) {balance : Balance} (h : Decimal.zero ≤ balance.current) :
    (d.putBalance balance).Solvent := by
  intro username stored hget
  rw [get?_balances_putBalance] at hget
  split at hget
  · cases hget
    exact h
  · exact hd username stored hget

/-- Whoever never had a balance is not in debt. -/
theorem balanceOf (hd : d.Solvent) (username : Username) (now : Instant) :
    Decimal.zero ≤ (d.balanceOf username now).current := by
  unfold Desk.balanceOf
  cases hget : d.balances.get? username with
  | none => exact Decimal.zero_le.2 le_rfl
  | some balance => exact hd username balance hget

/-- A balance that is charged does not fall below zero.

**Proof sketch.** What is debited is covered and not negative, so the exact difference is not
negative, and what is credited is not negative either. Rounding keeps the sign. -/
theorem charge (hd : d.Solvent) {side : Side} {username : Username} {amount : Decimal}
    {now : Instant} {balance : Balance}
    (h : charge side (d.balanceOf username now) amount now = .ok balance) :
    Decimal.zero ≤ balance.current := by
  obtain ⟨hsign, hcovers, current, hchange, rfl⟩ := charge_eq_ok_iff.1 h
  have hamount := Decimal.nonneg_of_isNegative hsign
  have hbefore := Decimal.zero_le.1 (hd.balanceOf username now)
  refine Decimal.zero_le.2 ?_
  cases side with
  | buy => exact Decimal.nonneg_of_difference? hamount (hcovers rfl) hchange
  | sell => exact Decimal.nonneg_of_sum? hbefore hamount hchange

/-- Answering any request, at any moment, overdraws no balance. -/
theorem answer (hd : d.Solvent) (m : Moment) (request : Request) :
    (Desk.answer m request d).2.Solvent := by
  cases request with
  | clock | token | findUser | findAsset | findBalance | findOrder | ordersOf | log => exact hd
  | saveIfStatus order expected =>
    obtain ⟨-, he⟩ | ⟨stored, -, -, he⟩ | ⟨stored, -, -, he⟩ := d.saveIfStatus_cases order expected
    · exact (congrArg Prod.snd he) ▸ hd
    · exact (congrArg Prod.snd he) ▸ hd
    · exact (congrArg Prod.snd he) ▸ (show (d.putOrder order).Solvent from hd)
  | commit side order =>
    obtain ⟨e, he⟩ | ⟨balance, -, hcharge, -, he⟩ := d.commit_cases m side order
    · exact (congrArg Prod.snd he) ▸ hd
    · have hstored : (d.putOrder order).Solvent := hd
      exact (congrArg Prod.snd he) ▸ hstored.putBalance (hd.charge hcharge)

end Solvent

/-- The small desk is solvent. -/
theorem solvent_small : small.Solvent := by
  refine Solvent.putBalance ?_ (by decide)
  exact solvent_of_empty rfl

end Desk

/-- No balance is set below zero from outside. -/
def Choice.SetsNoDebt : Choice → Prop
  | upkeep _ (.balance _ amount) => Decimal.zero ≤ amount
  | upkeep _ (.user _) | upkeep _ (.asset _) | turn .. | abandon => True

namespace Traffic

variable {α : Type} {s : Traffic α}

/-- Who does not have the lock changes no balance, unless nobody has it. -/
theorem balances_advance (s : Traffic α) (call : Nat) (m : Moment) :
    (s.advance call m).desk.balances = s.desk.balances ∨ (s.advance call m).lock = .free := by
  unfold advance
  split
  · next request next _ =>
    split
    · cases hs : s.lock with
      | charged | stored => exact .inl rfl
      | free =>
        cases request with
        | clock | token | findUser | findAsset | findBalance | findOrder | ordersOf | log
        | saveIfStatus => exact .inr hs
        | commit side order =>
          simp only [acquire]
          split
          · exact .inl rfl
          · exact .inr hs
    · next hlock => exact .inl (balances_answer s.desk hlock)
  · exact .inl rfl

/-- A step changes no balance unless nobody has the lock after it. -/
theorem balances_step (s : Traffic α) (c : Choice) :
    (s.step c).desk.balances = s.desk.balances ∨ (s.step c).lock = .free := by
  cases c with
  | abandon =>
    simp only [step, abandon]
    split <;> exact .inl rfl
  | upkeep m task =>
    cases task with
    | user | asset => exact .inl rfl
    | balance username amount =>
      simp only [step, upkeep, Desk.setBalance]
      cases hs : s.lock with
      | charged | stored => exact .inl rfl
      | free =>
        cases m.stalled with
        | none => exact .inr rfl
        | some ms => exact .inl rfl
  | turn call m =>
    simp only [step, turn]
    split
    · exact balances_advance s call m
    · split
      · unfold store Desk.persist Desk.insertOrder
        split
        · cases s.desk.orders.contains _ with
          | true => exact .inl rfl
          | false => exact .inl rfl
        · exact .inl rfl
      · exact balances_advance s call m
    · split
      · exact .inr rfl
      · exact balances_advance s call m

/-- A step overdraws no balance of the settled desk. -/
theorem solvent_settled_step (hlocked : s.Locked) (hs : s.settled.Solvent) {c : Choice}
    (hc : c.SetsNoDebt) : (s.step c).settled.Solvent := by
  obtain hrests | ⟨turn, next, htakes, -⟩ | ⟨m, task, rfl, hsettled, -, -⟩ := step_cases hlocked c
  · rw [hrests.settled]
    exact hs
  · rw [htakes.settled]
    exact hs.answer _ _
  · rw [hsettled]
    cases task with
    | user | asset => exact hs
    | balance username amount => exact hs.putBalance hc

/-- A step overdraws no balance of the desk: a balance that has changed is one of the settled
desk. -/
theorem solvent_step (hlocked : s.Locked) (hs : s.desk.Solvent ∧ s.settled.Solvent) {c : Choice}
    (hc : c.SetsNoDebt) : (s.step c).desk.Solvent ∧ (s.step c).settled.Solvent := by
  have hsettled := solvent_settled_step hlocked hs.2 hc
  refine ⟨?_, hsettled⟩
  obtain hsame | hfree := s.balances_step c
  · intro username balance hget
    rw [hsame] at hget
    exact hs.1 username balance hget
  · rwa [settled_of_free hfree] at hsettled

/-- **No double spend.** Whatever calls are served at the same time and in whatever order they go
on, at no time is a stored balance negative. The calls may be those of the service, or commits of
any orders at all.

**Proof sketch.** Induction on the schedule. A commit charges the balance that is there, and nobody
changes a balance while it has the lock. -/
theorem solvent_play (d : Desk) (hd : d.Solvent) (calls : List (Program α))
    (schedule : List Choice) (hschedule : ∀ c ∈ schedule, c.SetsNoDebt) :
    ((start d calls).play schedule).desk.Solvent := by
  have h : ((start d calls).play schedule).desk.Solvent ∧
      ((start d calls).play schedule).settled.Solvent := by
    induction schedule using List.reverseRecOn with
    | nil => exact ⟨hd, hd⟩
    | append_singleton schedule c ih =>
      have hbefore := ih fun c hc => hschedule c (List.mem_append_left _ hc)
      have hlast := hschedule c (List.mem_append_right schedule (List.mem_singleton_self c))
      rw [play_concat]
      exact solvent_step (locked_play d calls schedule) hbefore hlast
  exact h.1

/-- Alice buys for 600 while orders of hers are committed unchecked: two of a negative value, which
are refused, and one that costs half a unit, which leaves a balance of too many digits. It is
rounded. -/
theorem solvent_of_unchecked_orders :
    let form : OrderForm :=
      { username := "alice", orderType := .marketBuy, assetId := "btc", quantity := 1,
        orderPrice := none, expiresAt := none }
    let unchecked (text : String) (amount : Decimal) : Order :=
      { Order.small with orderId := ⟨text⟩, totalAmount := amount }
    let calls : List (Program Unit) :=
      [((Call.place form).program 50).andThen fun _ => .done (),
        (Service.settle .buy (unchecked "ord_1_a" (5 : Decimal).neg)).andThen fun _ => .done (),
        (Service.settle .sell (unchecked "ord_1_b" (5 : Decimal).neg)).andThen fun _ => .done (),
        (Service.settle .buy (unchecked "ord_1_c" 0.5)).andThen fun _ => .done ()]
    let schedule : List Choice :=
      .upkeep (.small 0) (.balance ⟨"alice"⟩ 79228162514264337593543950335) ::
        (List.range 60).map fun n => .turn (n % 4) (.small n)
    let s := (start Desk.small calls).play schedule
    (s.desk.balances.get? ⟨"alice"⟩).map Balance.current =
        some 79228162514264337593543949734 ∧
      (∀ c ∈ schedule, c.SetsNoDebt) ∧ s.desk.Solvent := by
  intro form unchecked calls schedule s
  have hschedule : ∀ c ∈ schedule, c.SetsNoDebt := by
    intro c hc
    obtain rfl | hc := List.mem_cons.1 hc
    · exact (by decide : Decimal.zero ≤ 79228162514264337593543950335)
    · obtain ⟨n, -, rfl⟩ := List.mem_map.1 hc
      trivial
  exact ⟨by decide +kernel, hschedule, solvent_play _ Desk.solvent_small calls schedule hschedule⟩

end Traffic

end OrderDesk
