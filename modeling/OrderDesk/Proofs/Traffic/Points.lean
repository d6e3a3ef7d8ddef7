import OrderDesk.Proofs.Shortage
import OrderDesk.Proofs.Traffic.Basic

/-!
# The points of orders placed at the same time

Each of the orders that are placed at the same time has a point at which its call takes effect.
Written down in the order in which they are reached, these points tell what the desk has become and
what every call will reply: what they would if the calls had been served one after another.

## Main definitions

* `OrderDesk.Job` — an order to be placed, with the circumstances of its call.
* `OrderDesk.serially`, `OrderDesk.together` — jobs served one after another, and at the same time.
* `OrderDesk.Points` — which calls have taken effect in a run, and with which replies.

## Main results

* `OrderDesk.Points.step` — in each step at most one call takes effect.
* `OrderDesk.Points.exists_together` — the points of a run, and of every shorter one.
* `OrderDesk.Points.served` — a call gets the reply that it gets on its own after those before it.

## Design

A call takes effect when a look at the balance turns its order away, when it commits, or when it
ends without either. The balance is looked at twice, with commits of others in between. A call whose
first look let the order pass has not taken effect; if the commit turns the order away, it takes
effect there, and there the first look would have turned it away as well.
-/

set_option autoImplicit false

namespace OrderDesk

/-! ## One job after another -/

/-- An order to be placed, with the circumstances of its call: the reading of the clock and the
token. The call has the balance lock in time. -/
structure Job where
  form : OrderForm
  moment : Moment
  unstalled : moment.stalled = none

/-- The requests of a job. -/
def Job.program (defaultLimit : Nat) (job : Job) : Program Reply :=
  (Call.place job.form).program defaultLimit

/-- A job asks for the time first. -/
theorem Job.exists_program (defaultLimit : Nat) (job : Job) :
    ∃ next, job.program defaultLimit = .ask .clock next :=
  ⟨_, rfl⟩

/-- A job that is served on its own: its reply and the desk that it leaves. -/
def Job.serve (defaultLimit : Nat) (job : Job) (d : Desk) : Reply × Desk :=
  (job.program defaultLimit).run (Desk.answer job.moment) d

/-- Jobs that are served **one after another**: their replies and the desk that they leave. -/
def serially (defaultLimit : Nat) : List Job → Desk → List Reply × Desk
  | [], d => ([], d)
  | job :: jobs, d =>
    let served := job.serve defaultLimit d
    let rest := serially defaultLimit jobs served.2
    (served.1 :: rest.1, rest.2)

/-- Later jobs are served on the desk that the earlier ones leave. -/
theorem serially_append (defaultLimit : Nat) (earlier later : List Job) (d : Desk) :
    serially defaultLimit (earlier ++ later) d =
      ((serially defaultLimit earlier d).1 ++
          (serially defaultLimit later (serially defaultLimit earlier d).2).1,
        (serially defaultLimit later (serially defaultLimit earlier d).2).2) := by
  induction earlier generalizing d with
  | nil => simp only [List.nil_append, serially]
  | cons first earlier ih => simp only [List.cons_append, serially, ih]

/-- Every job has a reply. -/
theorem length_serially (defaultLimit : Nat) (jobs : List Job) (d : Desk) :
    (serially defaultLimit jobs d).1.length = jobs.length := by
  induction jobs generalizing d with
  | nil => rfl
  | cons job jobs ih => simp only [serially, List.length_cons, ih]

/-! ## Jobs at the same time -/

/-- The turns of a schedule, which says whose call goes on in each step. A number without a job is
skipped. -/
def turns (jobs : List Job) (schedule : List Nat) : List Choice :=
  schedule.filterMap fun i => jobs[i]?.map fun job => .turn i job.moment

/-- The calls of the jobs are served **at the same time**, as the schedule says. -/
def together (defaultLimit : Nat) (jobs : List Job) (d : Desk) (schedule : List Nat) :
    Traffic Reply :=
  (Traffic.start d (jobs.map (Job.program defaultLimit))).play (turns jobs schedule)

/-- A longer schedule goes on where the shorter one ends. -/
theorem together_append (defaultLimit : Nat) (jobs : List Job) (d : Desk)
    (earlier later : List Nat) :
    together defaultLimit jobs d (earlier ++ later) =
      (together defaultLimit jobs d earlier).play (turns jobs later) := by
  unfold together turns
  rw [List.filterMap_append, Traffic.play_append]

/-- The turns of one call. -/
theorem turns_replicate {jobs : List Job} {i : Nat} {job : Job} (hjob : jobs[i]? = some job)
    (k : Nat) : turns jobs (List.replicate k i) = List.replicate k (.turn i job.moment) :=
  List.filterMap_replicate_of_some (by rw [hjob, Option.map_some])

/-! ## Calls that have taken effect -/

/-- Who has the balance lock is one of the calls, and has not ended. -/
structure Holder (jobs : List Job) (s : Traffic Reply) : Prop where
  /-- The lock has been taken under the circumstances of its call. -/
  charged : ∀ call m balance, s.lock = .charged call m balance →
    ∃ job, jobs[call]? = some job ∧ m = job.moment
  /-- A call that has stored its order, but not yet the balance, still asks for something. -/
  stored : ∀ call balance, s.lock = .stored call balance →
    ∃ request next, s.calls[call]? = some (.ask request next)

/-- The **points** of a run: which calls have taken effect, one after another, and with which
replies. -/
structure Points (defaultLimit : Nat) (d : Desk) (jobs : List Job) (s : Traffic Reply)
    (log : List (Nat × Reply)) : Prop where
  length : s.calls.length = jobs.length
  alike : d.Alike s.settled
  holder : Holder jobs s
  nodup : (log.map Prod.fst).Nodup
  /-- Served one after another, the calls leave the settled desk. -/
  serial : serially defaultLimit (log.filterMap fun entry => jobs[entry.1]?) d =
    (log.map Prod.snd, s.settled)
  /-- A call that has taken effect comes to its reply. -/
  decided : ∀ entry ∈ log, ∃ p job, s.calls[entry.1]? = some p ∧ jobs[entry.1]? = some job ∧
    p.ComesTo job.moment d entry.2
  /-- A call that has not taken effect has not ended, and on every desk it would come to what it
  would have come to from the beginning. -/
  undecided : ∀ i p job, s.calls[i]? = some p → jobs[i]? = some job → i ∉ log.map Prod.fst →
    (∀ reply, p ≠ .done reply) ∧ p.HasPoint job.moment d ∧
      ∀ d', d.Alike d' → p.run (Desk.answer job.moment) d' = job.serve defaultLimit d'
  /-- A call that has taken effect has taken a turn. -/
  taken : ∀ entry ∈ log, ∃ turn ∈ s.trace, turn.call = entry.1
  /-- An order that a commit has turned away has taken effect. -/
  shortage : ∀ turn ∈ s.trace, ∀ required available,
    turn.request.shortage? turn.answer = some (required, available) →
    (turn.call, .error (.error (.insufficientBalance required available))) ∈ log

namespace Points

variable {defaultLimit : Nat} {d : Desk} {jobs : List Job} {s s' : Traffic Reply}
  {log : List (Nat × Reply)}

/-- No call has taken effect yet. -/
theorem start (defaultLimit : Nat) (d : Desk) (jobs : List Job) :
    Points defaultLimit d jobs (.start d (jobs.map (Job.program defaultLimit))) [] where
  length := List.length_map _
  alike := .refl d
  holder :=
    { charged := fun _ _ _ hlock => by cases hlock
      stored := fun _ _ hlock => by cases hlock }
  nodup := .nil
  serial := rfl
  decided entry hentry := by cases hentry
  undecided i p job hp hjob _ := by
    simp only [Traffic.start, List.getElem?_map, hjob, Option.map_some, Option.some.injEq] at hp
    subst hp
    obtain ⟨next, hnext⟩ := job.exists_program defaultLimit
    refine ⟨fun reply h => ?_, OrderForm.hasPoint_program job.unstalled d defaultLimit job.form,
      fun _ _ => rfl⟩
    rw [hnext] at h
    cases h
  taken entry hentry := by cases hentry
  shortage turn hturn := by cases hturn

/-- A step in which nothing is answered leaves the points as they are. -/
theorem rests (h : Points defaultLimit d jobs s log) (hrests : s.Rests s')
    (hholder : Holder jobs s') : Points defaultLimit d jobs s' log where
  length := hrests.calls ▸ h.length
  alike := hrests.settled ▸ h.alike
  holder := hholder
  nodup := h.nodup
  serial := hrests.settled ▸ h.serial
  decided := hrests.calls ▸ h.decided
  undecided := hrests.calls ▸ h.undecided
  taken := hrests.trace ▸ h.taken
  shortage := hrests.trace ▸ h.shortage

variable {turn : Turn} {next : turn.request.Answer → Program Reply} {job : Job}

/-- A turn in which no call takes effect. -/
theorem keep (h : Points defaultLimit d jobs s log) (htakes : s.Takes s' turn next)
    (hjob : jobs[turn.call]? = some job)
    (hholder : Holder jobs s')
    (hsettled : s'.settled = s.settled)
    (hshortage : turn.request.shortage? turn.answer = none)
    (hdecided : ∀ entry ∈ log, entry.1 = turn.call →
      (next turn.answer).ComesTo job.moment d entry.2)
    (hundecided : turn.call ∉ log.map Prod.fst →
      (∀ reply, next turn.answer ≠ .done reply) ∧ (next turn.answer).HasPoint job.moment d ∧
        ∀ d', d.Alike d' →
          (next turn.answer).run (Desk.answer job.moment) d' = job.serve defaultLimit d') :
    Points defaultLimit d jobs s' log where
  length := by rw [htakes.calls, List.length_set, h.length]
  alike := hsettled ▸ h.alike
  holder := hholder
  nodup := h.nodup
  serial := hsettled ▸ h.serial
  decided entry hentry := by
    by_cases hcall : turn.call = entry.1
    · exact ⟨_, job, hcall ▸ htakes.calls_self, hcall ▸ hjob, hdecided entry hentry hcall.symm⟩
    · rw [htakes.calls_other hcall]
      exact h.decided entry hentry
  undecided i p job' hp hjob' hi := by
    by_cases hcall : turn.call = i
    · subst hcall
      cases hp.symm.trans htakes.calls_self
      cases hjob'.symm.trans hjob
      exact hundecided hi
    · rw [htakes.calls_other hcall] at hp
      exact h.undecided i p job' hp hjob' hi
  taken entry hentry := by
    obtain ⟨earlier, hmem, hcall⟩ := h.taken entry hentry
    exact ⟨earlier, htakes.trace ▸ List.mem_append_left _ hmem, hcall⟩
  shortage earlier hmem required available hshort := by
    rw [htakes.trace] at hmem
    rcases List.mem_append.1 hmem with hmem | hmem
    · exact h.shortage earlier hmem required available hshort
    · cases List.mem_singleton.1 hmem
      rw [hshortage] at hshort
      cases hshort

/-- The turn in which a call takes effect. -/
theorem decide (h : Points defaultLimit d jobs s log) (htakes : s.Takes s' turn next)
    (hjob : jobs[turn.call]? = some job)
    (hholder : Holder jobs s')
    (hnew : turn.call ∉ log.map Prod.fst) {reply : Reply}
    (hreply : (next turn.answer).ComesTo job.moment d reply)
    (hserve : job.serve defaultLimit s.settled = (reply, s'.settled))
    (hshortage : ∀ required available,
      turn.request.shortage? turn.answer = some (required, available) →
      reply = .error (.error (.insufficientBalance required available))) :
    Points defaultLimit d jobs s' (log ++ [(turn.call, reply)]) where
  length := by rw [htakes.calls, List.length_set, h.length]
  alike := htakes.settled ▸ h.alike.trans (.answer _ _ _)
  holder := hholder
  nodup := by
    rw [List.map_append, List.nodup_append]
    refine ⟨h.nodup, by simp, fun i hi j hj => ?_⟩
    obtain rfl : j = turn.call := by simpa using hj
    rintro rfl
    exact hnew hi
  serial := by
    have hlast : [(turn.call, reply)].filterMap (fun entry => jobs[entry.1]?) = [job] := by
      simp [hjob]
    rw [List.filterMap_append, hlast, serially_append, h.serial, List.map_append]
    simp only [serially, hserve, List.map_cons, List.map_nil]
  decided entry hentry := by
    rcases List.mem_append.1 hentry with hentry | hentry
    · have hcall : turn.call ≠ entry.1 := by
        intro hcall
        exact hnew (hcall ▸ List.mem_map_of_mem hentry)
      rw [htakes.calls_other hcall]
      exact h.decided entry hentry
    · cases List.mem_singleton.1 hentry
      exact ⟨_, job, htakes.calls_self, hjob, hreply⟩
  undecided i p job' hp hjob' hi := by
    rw [List.map_append, List.mem_append, not_or] at hi
    have hcall : turn.call ≠ i := by
      rintro rfl
      exact hi.2 (by simp)
    rw [htakes.calls_other hcall] at hp
    exact h.undecided i p job' hp hjob' hi.1
  taken entry hentry := by
    rw [htakes.trace]
    rcases List.mem_append.1 hentry with hentry | hentry
    · obtain ⟨earlier, hmem, hcall⟩ := h.taken entry hentry
      exact ⟨earlier, List.mem_append_left _ hmem, hcall⟩
    · cases List.mem_singleton.1 hentry
      exact ⟨turn, List.mem_append_right _ (List.mem_singleton_self _), rfl⟩
  shortage earlier hmem required available hshort := by
    rw [htakes.trace] at hmem
    rcases List.mem_append.1 hmem with hmem | hmem
    · exact List.mem_append_left _ (h.shortage earlier hmem required available hshort)
    · cases List.mem_singleton.1 hmem
      rw [← hshortage required available hshort]
      exact List.mem_append_right _ (List.mem_singleton_self _)

/-- In a turn at most one call takes effect.

**Proof sketch.** A call that has taken effect only asks what it is answered the same way at any
time. Another one goes on towards its point, or reaches it in this turn. At the point the rest of
the call comes to its reply, and since the whole call would have come to the same here, it is what
the call would have come to on its own. -/
theorem takes (h : Points defaultLimit d jobs s log) (htakes : s.Takes s' turn next)
    (hjob : jobs[turn.call]? = some job) (hmoment : turn.moment = job.moment)
    (hholder : Holder jobs s') :
    ∃ more, Points defaultLimit d jobs s' (log ++ more) := by
  have hanswer := htakes.answer
  have hsettled := htakes.settled
  rw [hmoment] at hanswer hsettled
  by_cases hnew : turn.call ∈ log.map Prod.fst
  · -- what is left of a call that has taken effect changes nothing
    have hcomes : ∀ entry ∈ log, entry.1 = turn.call →
        (Program.ask turn.request next).ComesTo job.moment d entry.2 := by
      intro entry hentry hcall
      obtain ⟨p, job', hp, hjob', hcomes⟩ := h.decided entry hentry
      rw [hcall] at hp hjob'
      cases hp.symm.trans htakes.asked
      cases hjob'.symm.trans hjob
      exact hcomes
    obtain ⟨entry, hentry, hcall⟩ := List.mem_map.1 hnew
    have hpassive := (hcomes entry hentry hcall).1
    have hsame := h.alike.answer_passive job.moment hpassive
    rw [hsame] at hanswer hsettled
    refine ⟨[], ?_⟩
    rw [List.append_nil]
    refine h.keep htakes hjob hholder hsettled (Request.shortage?_of_isPassive hpassive _) ?_
      fun hnot => absurd hnew hnot
    intro entry hentry hcall
    rw [hanswer]
    exact (hcomes entry hentry hcall).2
  · obtain ⟨-, hpoint, hsame⟩ := h.undecided turn.call _ job htakes.asked hjob hnew
    have hserve : job.serve defaultLimit s.settled =
        (next turn.answer).run (Desk.answer job.moment) s'.settled := by
      rw [← hsame _ h.alike, Program.run, hanswer, hsettled]
    have halike : d.Alike s'.settled := hsettled ▸ h.alike.trans (.answer _ _ _)
    have hstep := hpoint.step h.alike
    rw [← hanswer, ← hsettled] at hstep
    obtain ⟨hnext, hstay, hshortage, hrest⟩ | ⟨reply, hreply, hshortage⟩ := hstep
    · by_cases hdone : ∃ reply, next turn.answer = .done reply
      · obtain ⟨reply, hdone⟩ := hdone
        have hreply : (next turn.answer).ComesTo job.moment d reply := by
          rw [hdone]
          rfl
        refine ⟨_, h.decide htakes hjob hholder hnew hreply ?_ ?_⟩
        · rw [hserve, hdone]
          rfl
        · intro _ _ hsome
          rw [hshortage] at hsome
          cases hsome
      · refine ⟨[], ?_⟩
        rw [List.append_nil]
        refine h.keep htakes hjob hholder hstay hshortage
          (fun entry hentry hcall => absurd (hcall ▸ List.mem_map_of_mem hentry) hnew)
          fun _ => ⟨fun reply hreply => hdone ⟨reply, hreply⟩, hnext, fun d' hd' => ?_⟩
        rw [hrest d' hd', hsame d' hd']
    · refine ⟨_, h.decide htakes hjob hholder hnew hreply ?_ hshortage⟩
      rw [hserve, hreply.run halike]

/-- After a step the lock is still with a call that has not ended.

**Proof sketch.** Only a commit stores an order. A call that commits has not taken effect before, so
that the commit is its point, and then it still has to report the commit. -/
theorem holder_step (h : Points defaultLimit d jobs s log) (hlocked : s.Locked) {i : Nat}
    (hjob : jobs[i]? = some job) : Holder jobs (s.step (.turn i job.moment)) where
  charged call m balance hlock := by
    obtain hlock | hturn := Traffic.charged_step hlock
    · exact h.holder.charged call m balance hlock
    · cases hturn
      exact ⟨job, hjob, rfl⟩
  stored call balance hlock := by
    obtain ⟨hlock, hcalls⟩ | ⟨side, order, next, hasked, hcalls⟩ :=
      Traffic.stored_step hlocked hlock
    · rw [hcalls]
      exact h.holder.stored call balance hlock
    · obtain ⟨job', hjob'⟩ : ∃ job', jobs[call]? = some job' := by
        obtain ⟨hlt, -⟩ := List.getElem?_eq_some_iff.1 hasked
        exact ⟨_, List.getElem?_eq_getElem (h.length ▸ hlt)⟩
      have hnew : call ∉ log.map Prod.fst := by
        intro hmem
        obtain ⟨entry, hentry, rfl⟩ := List.mem_map.1 hmem
        obtain ⟨p, _, hp, -, hcomes⟩ := h.decided entry hentry
        cases hp.symm.trans hasked
        exact hcomes.1
      obtain ⟨-, hpoint, -⟩ := h.undecided call _ job' hasked hjob' hnew
      rw [hcalls]
      cases hpoint with
      | passive hpassive => exact hpassive.elim
      | commit _ hgoesOn =>
        obtain ⟨request, more, hmore⟩ := hgoesOn ⟨order, balance⟩
        exact ⟨request, more, congrArg some hmore⟩

/-- In each step at most one call takes effect. -/
theorem step (h : Points defaultLimit d jobs s log) (hlocked : s.Locked) {i : Nat}
    (hjob : jobs[i]? = some job) :
    ∃ more, Points defaultLimit d jobs (s.step (.turn i job.moment)) (log ++ more) := by
  have hholder := h.holder_step hlocked hjob
  obtain hrests | ⟨turn, next, htakes, hbelongs⟩ | ⟨_, _, hupkeep, -⟩ :=
    Traffic.step_cases hlocked (.turn i job.moment)
  · exact ⟨[], by rw [List.append_nil]; exact h.rests hrests hholder⟩
  · obtain hturn | ⟨balance, hlock⟩ := hbelongs
    · obtain ⟨rfl, hmoment⟩ := Choice.turn.inj hturn
      exact h.takes htakes hjob hmoment.symm hholder
    · obtain ⟨job', hjob', hmoment⟩ := h.holder.charged _ _ _ hlock
      exact h.takes htakes hjob' hmoment hholder
  · cases hupkeep

/-- All calls have points in every run, and those of a shorter run are the first of a longer one. -/
theorem exists_together (defaultLimit : Nat) (jobs : List Job) (d : Desk) (schedule : List Nat) :
    ∃ log, Points defaultLimit d jobs (together defaultLimit jobs d schedule) log ∧
      ∀ earlier later, schedule = earlier ++ later → ∃ before after, log = before ++ after ∧
        Points defaultLimit d jobs (together defaultLimit jobs d earlier) before := by
  induction schedule using List.reverseRecOn with
  | nil =>
    refine ⟨[], start defaultLimit d jobs, fun earlier later hsplit => ⟨[], [], rfl, ?_⟩⟩
    obtain ⟨rfl, -⟩ := List.append_eq_nil_iff.1 hsplit.symm
    exact start defaultLimit d jobs
  | append_singleton schedule i ih =>
    obtain ⟨log, hlog, hprefix⟩ := ih
    obtain ⟨more, hmore⟩ : ∃ more, Points defaultLimit d jobs
        (together defaultLimit jobs d (schedule ++ [i])) (log ++ more) := by
      rw [together_append]
      cases hjob : jobs[i]? with
      | none =>
        refine ⟨[], ?_⟩
        rw [show turns jobs [i] = [] by simp [turns, hjob], List.append_nil]
        exact hlog
      | some job =>
        rw [show [i] = List.replicate 1 i from rfl, turns_replicate hjob]
        exact hlog.step (Traffic.locked_play _ _ _) hjob
    refine ⟨log ++ more, hmore, fun earlier later hsplit => ?_⟩
    obtain rfl | ⟨later, last, rfl⟩ := List.eq_nil_or_concat' later
    · rw [List.append_nil] at hsplit
      exact ⟨log ++ more, [], (List.append_nil _).symm, hsplit ▸ hmore⟩
    · rw [← List.append_assoc] at hsplit
      obtain ⟨before, after, rfl, hbefore⟩ :=
        hprefix earlier later (List.append_inj_left' hsplit rfl)
      exact ⟨before, after ++ more, List.append_assoc .., hbefore⟩

/-- A call that has taken effect gets the reply that it gets on its own, after those that have taken
effect before it. -/
theorem served (h : Points defaultLimit d jobs s log) {before after : List (Nat × Reply)} {i : Nat}
    {reply : Reply} (hlog : log = before ++ (i, reply) :: after) (hjob : jobs[i]? = some job) :
    (job.serve defaultLimit
      (serially defaultLimit (before.filterMap fun entry => jobs[entry.1]?) d).2).1 = reply := by
  have hserial := congrArg Prod.fst h.serial
  have hlength : (serially defaultLimit (before.filterMap fun entry => jobs[entry.1]?) d).1.length =
      (before.map Prod.snd).length := by
    rw [length_serially, List.length_map, List.filterMap_length_eq_length]
    intro entry hentry
    obtain ⟨_, job, -, hjob, -⟩ := h.decided entry (hlog ▸ List.mem_append_left _ hentry)
    rw [hjob]
    rfl
  have hjobs : ((i, reply) :: after).filterMap (fun entry => jobs[entry.1]?) =
      job :: after.filterMap fun entry => jobs[entry.1]? := by
    simp only [List.filterMap_cons, hjob]
  rw [hlog, List.filterMap_append, serially_append, List.map_append, hjobs, List.map_cons]
    at hserial
  simp only [serially] at hserial
  exact (List.cons.inj (List.append_inj hserial hlength).2).1

end Points

end OrderDesk
