import OrderDesk.Proofs.Traffic.Completion
import OrderDesk.Proofs.Traffic.Points

/-!
# Orders placed at the same time

Orders that are placed at the same time are placed as if one after another: every call gets the
reply, and the desk is left, as in some order of the calls in which each of them is served on its
own. The order of the calls is the order in which they take effect.

## Main definitions

* `OrderDesk.SerialOrder` — an order of the calls that explains their replies and the desk.

## Main results

* `OrderDesk.Traffic.serial_together` — every run can be completed, and when all calls have ended,
  some order of the calls explains their replies and the desk.
-/

set_option autoImplicit false

namespace OrderDesk

variable {defaultLimit : Nat} {jobs : List Job} {d : Desk} {schedule : List Nat}
  {replies : List Reply}

/-- An order of the calls that **explains** a run: one after another they get the same replies and
leave the same desk. -/
structure SerialOrder (defaultLimit : Nat) (jobs : List Job) (d : Desk) (schedule : List Nat)
    (replies : List Reply) (order : List Nat) : Prop where
  perm : order.Perm (List.range jobs.length)
  serial : serially defaultLimit (order.filterMap (jobs[·]?)) d =
    (order.filterMap (replies[·]?), (together defaultLimit jobs d schedule).desk)
  /-- A call that had ended before another one began stands before it. -/
  precedes : ∀ earlier later i j reply, schedule = earlier ++ later →
    (together defaultLimit jobs d earlier).replies[i]? = some (some reply) →
    (∀ turn ∈ (together defaultLimit jobs d earlier).trace, turn.call ≠ j) → j < jobs.length →
    ∃ before after, order = before ++ after ∧ i ∈ before ∧ j ∈ after
  /-- An order that its commit turned away is told what the checks before the commit would have told
  it in its place. -/
  shortage : ∀ before i after job turn required available, order = before ++ i :: after →
    jobs[i]? = some job → turn ∈ (together defaultLimit jobs d schedule).trace → turn.call = i →
    turn.request.shortage? turn.answer = some (required, available) →
    replies[i]? = some (.error (.error (.insufficientBalance required available))) ∧
      ((Service.precheck job.form).run (Desk.answer job.moment)
        (serially defaultLimit (before.filterMap (jobs[·]?)) d).2).1 =
        .error (.error (.insufficientBalance required available))

namespace Traffic

/-- The reply of a call is there when the call has ended. -/
theorem getElem?_replies {α : Type} (s : Traffic α) (i : Nat) (reply : α) :
    s.replies[i]? = some (some reply) ↔ s.calls[i]? = some (.done reply) := by
  unfold replies
  rw [List.getElem?_map]
  cases s.calls[i]? with
  | none => simp
  | some p => cases p <;> simp

end Traffic

namespace Points

variable {s : Traffic Reply} {log : List (Nat × Reply)}

/-- A call that has ended has taken effect, with its reply. -/
theorem mem_of_done (h : Points defaultLimit d jobs s log) {i : Nat} {reply : Reply}
    (hdone : s.calls[i]? = some (.done reply)) : (i, reply) ∈ log := by
  obtain ⟨hlt, -⟩ := List.getElem?_eq_some_iff.1 hdone
  obtain ⟨job, hjob⟩ : ∃ job, jobs[i]? = some job :=
    ⟨_, List.getElem?_eq_getElem (h.length ▸ hlt)⟩
  by_cases hmem : i ∈ log.map Prod.fst
  · obtain ⟨entry, hentry, rfl⟩ := List.mem_map.1 hmem
    obtain ⟨p, _, hp, -, hcomes⟩ := h.decided entry hentry
    cases hp.symm.trans hdone
    obtain rfl : reply = entry.2 := hcomes
    exact hentry
  · exact absurd rfl ((h.undecided i _ job hdone hjob hmem).1 reply)

end Points

/-! ## Runs to the end -/

namespace Holder

variable {s : Traffic Reply}

/-- The call that has the lock is one of the jobs. -/
theorem exists_job (h : Holder jobs s) (hlength : s.calls.length = jobs.length) {call : Nat}
    (hholder : s.holder? = some call) : ∃ job, jobs[call]? = some job := by
  obtain ⟨m, balance, hlock⟩ | ⟨balance, hlock⟩ := Traffic.lock_of_holder? hholder
  · obtain ⟨job, hjob, -⟩ := h.charged call m balance hlock
    exact ⟨job, hjob⟩
  · obtain ⟨_, _, hasked⟩ := h.stored call balance hlock
    obtain ⟨hlt, -⟩ := List.getElem?_eq_some_iff.1 hasked
    exact ⟨_, List.getElem?_eq_getElem (hlength ▸ hlt)⟩

/-- When all calls have ended, nobody has the lock. -/
theorem free_of_done (h : Holder jobs s) (hlocked : s.Locked)
    (hdone : ∀ (i : Nat) (p : Program Reply), s.calls[i]? = some p → ∃ reply, p = .done reply) :
    s.lock = .free := by
  cases hs : s.lock with
  | free => rfl
  | charged holder m balance =>
    obtain ⟨_, _, _, hasked, -, -⟩ := hlocked holder m balance hs
    obtain ⟨_, hreply⟩ := hdone _ _ hasked
    cases hreply
  | stored holder balance =>
    obtain ⟨_, _, hasked⟩ := h.stored holder balance hs
    obtain ⟨_, hreply⟩ := hdone _ _ hasked
    cases hreply

end Holder

/-- Every run can be continued until the lock is free. -/
theorem exists_together_free (defaultLimit : Nat) (jobs : List Job) (d : Desk)
    (schedule : List Nat) :
    ∃ more, (together defaultLimit jobs d (schedule ++ more)).lock = .free := by
  obtain ⟨log, hlog, -⟩ := Points.exists_together defaultLimit jobs d schedule
  cases hholder : (together defaultLimit jobs d schedule).holder? with
  | none => exact ⟨[], by rw [List.append_nil]; exact Traffic.free_of_holder? hholder⟩
  | some call =>
    obtain ⟨job, hjob⟩ := hlog.holder.exists_job hlog.length hholder
    obtain ⟨k, hk⟩ := Traffic.exists_released (Traffic.locked_play _ _ _) hholder job.moment
    refine ⟨List.replicate k call, ?_⟩
    rw [together_append, turns_replicate hjob]
    exact hk

/-- Every run can be completed.

**Proof sketch.** The lock is given back first. Then the calls go on one after another, each to its
end. -/
theorem exists_together_done (defaultLimit : Nat) (jobs : List Job) (d : Desk)
    (schedule : List Nat) :
    ∃ (more : List Nat) (replies : List Reply),
      (together defaultLimit jobs d (schedule ++ more)).replies = replies.map some := by
  have hlength : ∀ schedule,
      (together defaultLimit jobs d schedule).calls.length = jobs.length := by
    intro schedule
    obtain ⟨log, hlog, -⟩ := Points.exists_together defaultLimit jobs d schedule
    exact hlog.length
  have hfirst : ∀ n ≤ jobs.length, ∃ more,
      (together defaultLimit jobs d (schedule ++ more)).lock = .free ∧
      ∀ i < n, ∃ reply,
        (together defaultLimit jobs d (schedule ++ more)).replies[i]? = some (some reply) := by
    intro n hn
    induction n with
    | zero =>
      obtain ⟨more, hfree⟩ := exists_together_free defaultLimit jobs d schedule
      exact ⟨more, hfree, fun i hi => absurd hi (Nat.not_lt_zero i)⟩
    | succ n ih =>
      obtain ⟨more, hfree, hended⟩ := ih (Nat.le_of_succ_le hn)
      have hjob := List.getElem?_eq_getElem hn
      have hcall : n < (together defaultLimit jobs d (schedule ++ more)).calls.length :=
        (hlength _).symm ▸ hn
      obtain ⟨k, reply, hfree, hcalls⟩ := Traffic.exists_ended hfree hcall jobs[n].moment
      refine ⟨more ++ List.replicate k n, ?_⟩
      rw [← List.append_assoc, together_append, turns_replicate hjob]
      refine ⟨hfree, fun i hi => ?_⟩
      simp only [Traffic.getElem?_replies, hcalls]
      obtain rfl | hlt := Nat.eq_or_lt_of_le (Nat.le_of_lt_succ hi)
      · exact ⟨reply, List.getElem?_set_self hcall⟩
      · obtain ⟨reply, hreply⟩ := hended i hlt
        refine ⟨reply, ?_⟩
        rw [List.getElem?_set_ne (Nat.ne_of_gt hlt)]
        exact (Traffic.getElem?_replies _ _ _).1 hreply
  obtain ⟨more, -, hended⟩ := hfirst jobs.length le_rfl
  have hsome : ∀ reply ∈ (together defaultLimit jobs d (schedule ++ more)).replies,
      reply.isSome = true := by
    intro reply hreply
    obtain ⟨i, hi, rfl⟩ := List.mem_iff_getElem.1 hreply
    obtain ⟨reply, hended⟩ := hended i (by simpa [Traffic.replies, hlength] using hi)
    rw [List.getElem?_eq_getElem hi] at hended
    rw [Option.some.inj hended, Option.isSome_some]
  refine ⟨more, (together defaultLimit jobs d (schedule ++ more)).replies.filterMap id, ?_⟩
  rw [List.map_filterMap_some_eq_filter_map_isSome, List.map_id, List.filter_eq_self.2 hsome]

/-! ## The order of the calls -/

namespace Points

variable {s : Traffic Reply} {log : List (Nat × Reply)}

/-- When all calls have ended, each of them has ended with its reply. -/
theorem done_of_replies (hdone : s.replies = replies.map some) {i : Nat} {p : Program Reply}
    (hp : s.calls[i]? = some p) : ∃ reply, replies[i]? = some reply ∧ p = .done reply := by
  have hlength := congrArg List.length hdone
  simp only [Traffic.replies, List.length_map] at hlength
  obtain ⟨hlt, -⟩ := List.getElem?_eq_some_iff.1 hp
  obtain ⟨reply, hreply⟩ : ∃ reply, replies[i]? = some reply :=
    ⟨_, List.getElem?_eq_getElem (hlength ▸ hlt)⟩
  have hended : s.replies[i]? = some (some reply) := by
    rw [hdone, List.getElem?_map, hreply, Option.map_some]
  exact ⟨reply, hreply, Option.some.inj (hp.symm.trans ((s.getElem?_replies i _).1 hended))⟩

/-- When all calls have ended, a call that has taken effect has ended with its reply. -/
theorem getElem?_of_mem (h : Points defaultLimit d jobs s log)
    (hdone : s.replies = replies.map some) {entry : Nat × Reply} (hentry : entry ∈ log) :
    replies[entry.1]? = some entry.2 := by
  obtain ⟨p, _, hp, -, hcomes⟩ := h.decided entry hentry
  obtain ⟨reply, hreply, rfl⟩ := done_of_replies hdone hp
  obtain rfl : reply = entry.2 := hcomes
  exact hreply

/-- When all calls have ended, all of them have taken effect. -/
theorem perm_range (h : Points defaultLimit d jobs s log) (hdone : s.replies = replies.map some) :
    (log.map Prod.fst).Perm (List.range jobs.length) := by
  refine (List.perm_ext_iff_of_nodup h.nodup List.nodup_range).2 fun i => ?_
  rw [List.mem_range]
  constructor
  · intro hi
    obtain ⟨entry, hentry, rfl⟩ := List.mem_map.1 hi
    obtain ⟨_, _, -, hjob, -⟩ := h.decided entry hentry
    obtain ⟨hlt, -⟩ := List.getElem?_eq_some_iff.1 hjob
    exact hlt
  · intro hi
    have hp := List.getElem?_eq_getElem (h.length.symm ▸ hi)
    obtain ⟨reply, -, hreply⟩ := done_of_replies hdone hp
    exact List.mem_map_of_mem (f := Prod.fst) (h.mem_of_done (hp.trans (congrArg some hreply)))

/-- When all calls have ended, they have ended as if they had been served one after another. -/
theorem serially_of_done (h : Points defaultLimit d jobs s log) (hlocked : s.Locked)
    (hdone : s.replies = replies.map some) :
    serially defaultLimit ((log.map Prod.fst).filterMap (jobs[·]?)) d =
      ((log.map Prod.fst).filterMap (replies[·]?), s.desk) := by
  have hfree : s.lock = .free := by
    refine h.holder.free_of_done hlocked fun i p hp => ?_
    obtain ⟨reply, -, hreply⟩ := done_of_replies hdone hp
    exact ⟨reply, hreply⟩
  have hreplies : log.filterMap (fun entry => replies[entry.1]?) = log.map Prod.snd := by
    rw [← List.filterMap_eq_map]
    exact List.filterMap_congr fun entry hentry => h.getElem?_of_mem hdone hentry
  rw [List.filterMap_map, List.filterMap_map, ← Traffic.settled_of_free hfree]
  exact h.serial.trans (congrArg (·, s.settled) hreplies.symm)

end Points

/-- Orders that are placed at the same time are placed as if one after another: every run can be
completed, and when all calls have ended, some order of the calls explains the run.

**Proof sketch.** The calls stand in the order of their points. In every step at most one call takes
effect, and there it does to the desk what it would do on its own, and will get the same reply. An
order that is turned away by its commit takes effect there, where the look at the balance would have
turned it away too. -/
theorem Traffic.serial_together (defaultLimit : Nat) (jobs : List Job) (d : Desk)
    (schedule : List Nat) :
    (∃ (more : List Nat) (replies : List Reply),
      (together defaultLimit jobs d (schedule ++ more)).replies = replies.map some) ∧
    ∀ replies : List Reply,
      (together defaultLimit jobs d schedule).replies = replies.map some →
      ∃ order, SerialOrder defaultLimit jobs d schedule replies order := by
  refine ⟨exists_together_done defaultLimit jobs d schedule, fun replies hdone => ?_⟩
  obtain ⟨log, hlog, hprefix⟩ := Points.exists_together defaultLimit jobs d schedule
  refine ⟨log.map Prod.fst, hlog.perm_range hdone,
    hlog.serially_of_done (locked_play _ _ _) hdone, ?_, ?_⟩
  · intro earlier later i j reply hsplit hended hunbegun hj
    obtain ⟨before, after, rfl, hbefore⟩ := hprefix earlier later hsplit
    refine ⟨before.map Prod.fst, after.map Prod.fst, List.map_append, ?_, ?_⟩
    · have hmem := hbefore.mem_of_done ((getElem?_replies _ _ _).1 hended)
      exact List.mem_map_of_mem (f := Prod.fst) hmem
    · have hmem := (hlog.perm_range hdone).mem_iff.2 (List.mem_range.2 hj)
      rw [List.map_append, List.mem_append] at hmem
      refine hmem.resolve_left fun hfirst => ?_
      obtain ⟨entry, hentry, rfl⟩ := List.mem_map.1 hfirst
      obtain ⟨turn, hturn, hcall⟩ := hbefore.taken entry hentry
      exact hunbegun turn hturn hcall
  · rintro before i after job turn required available horder hjob hturn rfl hshortage
    have hmem := hlog.shortage turn hturn required available hshortage
    have hreply := hlog.getElem?_of_mem hdone hmem
    obtain ⟨first, rest, rfl, rfl, hrest⟩ := List.map_eq_append_iff.1 horder
    obtain ⟨⟨_, reply⟩, last, rfl, rfl, rfl⟩ := List.map_eq_cons_iff.1 hrest
    have hlast := hlog.getElem?_of_mem hdone (List.mem_append_right first List.mem_cons_self)
    obtain rfl := Option.some.inj (hlast.symm.trans hreply)
    have hserved := hlog.served rfl hjob
    rw [List.filterMap_map]
    exact ⟨hreply, Service.precheck_of_shortage job.unstalled hserved⟩

/-- Two orders that the balance of the small desk does not cover together both pass the look at the
balance, and the second one is turned away by its commit. -/
theorem Traffic.serial_of_competition :
    let form : OrderForm :=
      { username := "alice", orderType := .marketBuy, assetId := "btc",
        quantity := 1, orderPrice := none, expiresAt := none }
    let jobs : List Job := [⟨form, .small 1, rfl⟩, ⟨form, .small 2, rfl⟩]
    let schedule := (List.range 28).map (· % 2)
    let s := together 50 jobs Desk.small schedule
    (∃ turn ∈ s.trace, turn.request.shortage? turn.answer =
      some (600.00, 400.00)) ∧
    s.desk.orders.size = 1 ∧
    ∃ order, SerialOrder 50 jobs Desk.small schedule (s.replies.filterMap id) order :=
  ⟨by decide +kernel, by decide +kernel,
    (serial_together 50 _ _ _).2 _ (by decide +kernel)⟩

end OrderDesk
