import OrderDesk.Proofs.Traffic.Basic

/-!
# Calls come to their end

A call that waits for the balance lock waits for another call, and never for itself: whoever has the
lock can go on and give it back. So a run can always be continued until every call has ended.

## Main definitions

* `OrderDesk.Traffic.holder?` — the call that has the balance lock.

## Main results

* `OrderDesk.Traffic.exists_released` — the lock is given back by whoever has it.
* `OrderDesk.Traffic.exists_ended` — while the lock is free, a call can go on to its end.
-/

set_option autoImplicit false

namespace OrderDesk.Traffic

variable {α : Type} {s : Traffic α} {call : Nat}

/-- The call that has the balance lock. -/
def holder? (s : Traffic α) : Option Nat :=
  match s.lock with
  | .free => none
  | .charged call _ _ | .stored call _ => some call

/-- If no call has the lock, it is free. -/
theorem free_of_holder? (h : s.holder? = none) : s.lock = .free := by
  unfold holder? at h
  split at h
  · assumption
  · cases h
  · cases h

/-- A call that has the lock has computed a balance, or it has stored an order. -/
theorem lock_of_holder? (h : s.holder? = some call) :
    (∃ m balance, s.lock = .charged call m balance) ∨
      ∃ balance, s.lock = .stored call balance := by
  unfold holder? at h
  split at h
  · cases h
  · next m balance hlock =>
    cases h
    exact .inl ⟨m, balance, hlock⟩
  · next balance hlock =>
    cases h
    exact .inr ⟨balance, hlock⟩

/-- Whoever has the lock can go on and give it back. -/
theorem exists_released (h : s.Locked) (hholder : s.holder? = some call) (m : Moment) :
    ∃ k, (s.play (List.replicate k (.turn call m))).lock = .free := by
  obtain ⟨acquired, balance, hs⟩ | ⟨balance, hs⟩ := lock_of_holder? hholder
  · obtain ⟨side, order, next, hasked, -, -⟩ := h call acquired balance hs
    have hstep : s.step (.turn call m) = s.store call acquired balance := by
      simp only [step, turn, hs, if_true]
    simp only [store, hasked] at hstep
    cases hpersist : s.desk.persist order with
    | error e =>
      refine ⟨1, ?_⟩
      change (s.step (.turn call m)).lock = .free
      rw [hstep]
      simp only [hpersist]
    | ok stored =>
      refine ⟨2, ?_⟩
      change ((s.step (.turn call m)).step (.turn call m)).lock = .free
      rw [hstep]
      simp only [hpersist, step, turn, if_true]
  · refine ⟨1, ?_⟩
    change (s.step (.turn call m)).lock = .free
    simp only [step, turn, hs, if_true]

/-- While the lock is free, a request of a call is answered in a few turns, and then the lock is
free again. -/
theorem exists_answered {request : Request} {next : request.Answer → Program α}
    (hfree : s.lock = .free) (hasked : s.calls[call]? = some (.ask request next)) (m : Moment) :
    ∃ k answer, (s.play (List.replicate k (.turn call m))).lock = .free ∧
      (s.play (List.replicate k (.turn call m))).calls = s.calls.set call (next answer) := by
  have hstep : s.step (.turn call m) =
      if request.UsesLock ∧ m.stalled = none then s.acquire call m request next
      else s.answered call m request next := by
    simp only [step, turn, hfree, advance, hasked]
  have hanswered : s.step (.turn call m) = s.answered call m request next →
      ∃ k answer, (s.play (List.replicate k (.turn call m))).lock = .free ∧
        (s.play (List.replicate k (.turn call m))).calls = s.calls.set call (next answer) := by
    intro h
    refine ⟨1, (Desk.answer m request s.desk).1, ?_⟩
    change (s.step (.turn call m)).lock = .free ∧ (s.step (.turn call m)).calls = _
    rw [h]
    exact ⟨hfree, rfl⟩
  by_cases huses : request.UsesLock ∧ m.stalled = none
  swap
  · exact hanswered (hstep.trans (if_neg huses))
  rw [if_pos huses] at hstep
  cases request with
  | clock | token | findUser | findAsset | findBalance | findOrder | ordersOf | log
  | saveIfStatus => exact hanswered hstep
  | commit side order =>
    cases hcharge : Desk.charge side (s.desk.balanceOf order.username m.now) order.totalAmount m.now
    with
    | error e => exact hanswered (hstep.trans (by simp only [acquire, hcharge]))
    | ok balance =>
      -- the lock is taken, the order is stored or not, and its balance is stored if it is
      simp only [acquire, hcharge] at hstep
      cases hpersist : s.desk.persist order with
      | error e =>
        refine ⟨2, .error e, ?_⟩
        change ((s.step (.turn call m)).step (.turn call m)).lock = .free ∧
          ((s.step (.turn call m)).step (.turn call m)).calls = _
        rw [hstep]
        simp only [step, turn, if_true, store, hasked, hpersist, and_self]
      | ok stored =>
        refine ⟨3, .ok ⟨order, balance⟩, ?_⟩
        change (((s.step (.turn call m)).step (.turn call m)).step (.turn call m)).lock = .free ∧
          (((s.step (.turn call m)).step (.turn call m)).step (.turn call m)).calls = _
        rw [hstep]
        simp only [step, turn, if_true, store, hasked, hpersist, and_self]

/-- While the lock is free, a call can go on to its end, and no other call goes on. -/
theorem exists_ended (hfree : s.lock = .free) (hcall : call < s.calls.length) (m : Moment) :
    ∃ k reply, (s.play (List.replicate k (.turn call m))).lock = .free ∧
      (s.play (List.replicate k (.turn call m))).calls = s.calls.set call (.done reply) := by
  obtain ⟨p, hp⟩ : ∃ p, s.calls[call]? = some p := ⟨_, List.getElem?_eq_getElem hcall⟩
  induction p generalizing s with
  | done reply =>
    refine ⟨0, reply, hfree, ?_⟩
    obtain ⟨hlt, hdone⟩ := List.getElem?_eq_some_iff.1 hp
    change s.calls = _
    rw [← hdone, List.set_getElem_self]
  | ask request next ih =>
    obtain ⟨k, answer, hfirst, hcalls⟩ := exists_answered hfree hp m
    have hself : (s.play (List.replicate k (.turn call m))).calls[call]? = some (next answer) := by
      rw [hcalls, List.getElem?_set_self hcall]
    obtain ⟨more, reply, hlast, hended⟩ :=
      ih answer hfirst (by rw [hcalls, List.length_set]; exact hcall) hself
    refine ⟨k + more, reply, ?_, ?_⟩
    · rw [← List.replicate_append_replicate, play_append]
      exact hlast
    · rw [← List.replicate_append_replicate, play_append, hended, hcalls, List.set_set]

end OrderDesk.Traffic
