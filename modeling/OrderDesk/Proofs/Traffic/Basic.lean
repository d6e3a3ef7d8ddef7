import Mathlib.Data.List.Induction
import OrderDesk.Proofs.Stores

/-!
# Traffic: calls that are served at the same time

Several calls are served by one desk. In each step one of them goes on by one request, so that
between any two requests of a call all others may have gone on. A commit is no single step: it takes
the balance lock and computes the new balance, then it stores the order, and last it stores the
balance and gives the lock back. In between other calls see the order without its money.

## Main definitions

* `OrderDesk.Traffic` — the desk, the balance lock, the calls and all that has been answered.
* `OrderDesk.Choice` — what happens next: a call goes on, or a user, an asset or a balance is set.
* `OrderDesk.Traffic.step`, `OrderDesk.Traffic.play` — one step, and the steps of a schedule.
* `OrderDesk.Traffic.settled` — the desk once the commit under way has stored its balance.

## Main results

* `OrderDesk.Traffic.step_cases` — all that a step can do: nothing on the settled desk, or one
  request answered by it at once.
* `OrderDesk.Traffic.locked_play` — who has the balance lock is about to commit.

## Design

A lock that is not had in time is a matter of the moment: a request is answered with a timeout
whenever its moment says so. A call that is given up takes no more turns; if it has the lock and
has not stored its order, the lock is given back. Once its order is stored it cannot be given up
before its balance is.
-/

set_option autoImplicit false

namespace OrderDesk

/-! ## States -/

/-- A request and its answer. -/
structure Exchange where
  request : Request
  answer : request.Answer

/-- The order and the money of a commit that has succeeded. -/
def Exchange.settlement? : Exchange → Option Settlement
  | ⟨.commit _ _, .ok settlement⟩ => some settlement
  | _ => none

/-- A request of a call that has been answered. -/
structure Turn extends Exchange where
  /-- The number of the call. -/
  call : Nat
  /-- The circumstances under which it has been answered. -/
  moment : Moment

deriving instance DecidableEq for Moment

/-- The balance lock. -/
inductive Lock where
  | free
  /-- A call has the lock and has computed the balance that its commit will leave. -/
  | charged (call : Nat) (moment : Moment) (balance : Balance)
  /-- A call has stored its order, but not yet the balance. -/
  | stored (call : Nat) (balance : Balance)
deriving DecidableEq

/-- Calls that are served at the same time. -/
structure Traffic (α : Type) where
  desk : Desk
  lock : Lock
  /-- What the calls have yet to ask. -/
  calls : List (Program α)
  /-- All turns, the latest last. -/
  trace : List Turn

/-- An entry that is set from outside, and not by a call. -/
inductive Upkeep where
  | user (user : User)
  | asset (asset : Asset)
  | balance (username : Username) (amount : Decimal)

/-- What happens next. -/
inductive Choice where
  /-- A call goes on. -/
  | turn (call : Nat) (moment : Moment)
  /-- The call that has the balance lock is given up before it has stored its order. -/
  | abandon
  | upkeep (moment : Moment) (task : Upkeep)

/-- The desk with an entry set from outside. -/
def Upkeep.entered (task : Upkeep) (d : Desk) (now : Instant) : Desk :=
  match task with
  | user u => d.putUser u
  | asset a => d.putAsset a
  | balance username amount => d.putBalance { username, current := amount, updatedAt := now }

/-- The request needs the balance lock. -/
def Request.UsesLock : Request → Prop
  | findBalance _ | commit .. => True
  | clock | token | findUser _ | findAsset _ | findOrder _ | ordersOf .. | saveIfStatus ..
  | log _ => False

instance (request : Request) : Decidable request.UsesLock := by
  cases request <;> unfold Request.UsesLock <;> infer_instance

namespace Traffic

variable {α : Type}

/-- No call has asked anything yet. -/
def start (d : Desk) (calls : List (Program α)) : Traffic α :=
  { desk := d, lock := .free, calls, trace := [] }

/-- The replies of the calls that have ended. -/
def replies (s : Traffic α) : List (Option α) :=
  s.calls.map fun
    | .done reply => some reply
    | .ask .. => none

/-- The **settled** desk: the desk once the commit under way has stored its balance. -/
def settled (s : Traffic α) : Desk :=
  match s.lock with
  | .stored _ balance => s.desk.putBalance balance
  | .free | .charged .. => s.desk

/-- A balance that has yet to be stored is no order. -/
theorem orders_settled (s : Traffic α) : s.settled.orders = s.desk.orders := by
  cases hlock : s.lock <;> simp only [settled, hlock]
  rfl

/-- While nobody has the balance lock, the desk is settled. -/
theorem settled_of_free {s : Traffic α} (h : s.lock = .free) : s.settled = s.desk := by
  simp only [settled, h]

/-! ## Steps -/

/-- The request of a call is answered at once. -/
def answered (s : Traffic α) (call : Nat) (m : Moment) (request : Request)
    (next : request.Answer → Program α) : Traffic α :=
  let (answer, desk) := Desk.answer m request s.desk
  { s with
    desk := desk
    calls := s.calls.set call (next answer)
    trace := s.trace ++ [⟨⟨request, answer⟩, call, m⟩] }

/-- A call gets the balance lock. A commit keeps it if there is a balance to be stored; every other
request is answered at once. -/
def acquire (s : Traffic α) (call : Nat) (m : Moment) :
    (request : Request) → (request.Answer → Program α) → Traffic α
  | .commit side order, next =>
    match Desk.charge side (s.desk.balanceOf order.username m.now) order.totalAmount m.now with
    | .ok balance => { s with lock := .charged call m balance }
    | .error _ => s.answered call m (.commit side order) next
  | request, next => s.answered call m request next

/-- The commit of a call stores its order. An order that cannot be stored fails the commit. -/
def store (s : Traffic α) (call : Nat) (m : Moment) (balance : Balance) : Traffic α :=
  match s.calls[call]? with
  | some (.ask (.commit side order) next) =>
    match s.desk.persist order with
    | .ok stored =>
      { desk := stored
        lock := .stored call balance
        calls := s.calls.set call (next (.ok ⟨order, balance⟩))
        trace := s.trace ++ [⟨⟨.commit side order, .ok ⟨order, balance⟩⟩, call, m⟩] }
    | .error e =>
      { s with
        lock := .free
        calls := s.calls.set call (next (.error e))
        trace := s.trace ++ [⟨⟨.commit side order, .error e⟩, call, m⟩] }
  | _ => s

/-- A call that does not have the balance lock goes on. If it needs the lock and somebody else has
it, the call waits. -/
def advance (s : Traffic α) (call : Nat) (m : Moment) : Traffic α :=
  match s.calls[call]? with
  | some (.ask request next) =>
    if request.UsesLock ∧ m.stalled = none then
      match s.lock with
      | .free => s.acquire call m request next
      | .charged .. | .stored .. => s
    else s.answered call m request next
  | _ => s

/-- A call goes on: it goes on with its commit if it has the balance lock. -/
def turn (s : Traffic α) (call : Nat) (m : Moment) : Traffic α :=
  match s.lock with
  | .free => s.advance call m
  | .charged holder acquired balance =>
    if holder = call then s.store call acquired balance else s.advance call m
  | .stored holder balance =>
    if holder = call then { s with desk := s.desk.putBalance balance, lock := .free }
    else s.advance call m

/-- The call that has the balance lock is given up, unless it has stored its order. -/
def abandon (s : Traffic α) : Traffic α :=
  match s.lock with
  | .charged .. => { s with lock := .free }
  | .free | .stored .. => s

/-- An entry is set from outside; a balance is set only while nobody has the balance lock. -/
def upkeep (s : Traffic α) (m : Moment) : Upkeep → Traffic α
  | .user user => { s with desk := s.desk.putUser user }
  | .asset asset => { s with desk := s.desk.putAsset asset }
  | .balance username amount =>
    match s.lock with
    | .free =>
      match s.desk.setBalance m username amount with
      | .ok desk => { s with desk := desk }
      | .error _ => s
    | .charged .. | .stored .. => s

/-- One step. -/
def step (s : Traffic α) : Choice → Traffic α
  | .turn call m => s.turn call m
  | .abandon => s.abandon
  | .upkeep m task => s.upkeep m task

/-- The steps of a schedule. -/
def play (s : Traffic α) (schedule : List Choice) : Traffic α :=
  schedule.foldl step s

/-- A schedule is played up to its last step, and then its last step. -/
@[simp]
theorem play_concat (s : Traffic α) (schedule : List Choice) (c : Choice) :
    s.play (schedule ++ [c]) = (s.play schedule).step c := by
  simp [play]

/-- Schedules are played one after the other. -/
theorem play_append (s : Traffic α) (schedule more : List Choice) :
    s.play (schedule ++ more) = (s.play schedule).play more := by
  simp [play]

/-! ## What a step can do -/

/-- A step in which one turn is taken: the settled desk answers the next request of a call. -/
structure Takes (s s' : Traffic α) (turn : Turn) (next : turn.request.Answer → Program α) :
    Prop where
  asked : s.calls[turn.call]? = some (.ask turn.request next)
  answer : turn.answer = (Desk.answer turn.moment turn.request s.settled).1
  settled : s'.settled = (Desk.answer turn.moment turn.request s.settled).2
  calls : s'.calls = s.calls.set turn.call (next turn.answer)
  trace : s'.trace = s.trace ++ [turn]
  /-- No balance is missing when a commit succeeds. -/
  alone : turn.settlement?.isSome = true → s.desk = s.settled

/-- The call of a turn goes on with the answer. -/
theorem Takes.calls_self {s s' : Traffic α} {turn : Turn}
    {next : turn.request.Answer → Program α} (h : Takes s s' turn next) :
    s'.calls[turn.call]? = some (next turn.answer) := by
  obtain ⟨hlt, -⟩ := List.getElem?_eq_some_iff.1 h.asked
  rw [h.calls, List.getElem?_set_self hlt]

/-- No other call goes on. -/
theorem Takes.calls_other {s s' : Traffic α} {turn : Turn}
    {next : turn.request.Answer → Program α} (h : Takes s s' turn next) {i : Nat}
    (hi : turn.call ≠ i) : s'.calls[i]? = s.calls[i]? := by
  rw [h.calls, List.getElem?_set_ne hi]

/-- A step in which no turn is taken and nothing happens on the settled desk. -/
structure Rests (s s' : Traffic α) : Prop where
  settled : s'.settled = s.settled
  calls : s'.calls = s.calls
  trace : s'.trace = s.trace

/-- Who has the balance lock is about to commit, and the balance is the one that the commit will
leave. -/
def Locked (s : Traffic α) : Prop :=
  ∀ call m balance, s.lock = .charged call m balance →
    ∃ side order next, s.calls[call]? = some (.ask (.commit side order) next) ∧
      m.stalled = none ∧
      Desk.charge side (s.desk.balanceOf order.username m.now) order.totalAmount m.now = .ok balance

/-- A balance that is stored later makes no difference to requests that do not wait for it. -/
theorem answer_putBalance (m : Moment) (request : Request) (d : Desk) (balance : Balance)
    (h : request.UsesLock → m.stalled ≠ none) :
    Desk.answer m request (d.putBalance balance) =
      ((Desk.answer m request d).1, (Desk.answer m request d).2.putBalance balance) := by
  cases request with
  | clock | token | findUser | findAsset | findOrder | ordersOf | log => rfl
  | findBalance username =>
    obtain ⟨ms, hms⟩ := Option.ne_none_iff_exists'.1 (h trivial)
    simp [Desk.answer, Desk.readBalance, hms]
  | commit side order =>
    obtain ⟨ms, hms⟩ := Option.ne_none_iff_exists'.1 (h trivial)
    simp [Desk.answer, Desk.commit, hms]
  | saveIfStatus order expected =>
    have horders : (d.putBalance balance).orders = d.orders := rfl
    simp only [Desk.answer, Desk.saveIfStatus, Desk.replaceIf, horders]
    cases d.orders.get? order.orderId with
    | none => rfl
    | some stored =>
      by_cases hstatus : stored.status = expected
      · simp only [hstatus, ne_eq, not_true_eq_false, if_false]
        rfl
      · simp only [hstatus, ne_eq, not_false_eq_true, if_true]

/-- A commit that succeeds does not wait for the lock in vain. -/
theorem stalled_of_settlement {m : Moment} {request : Request} {d : Desk}
    (h : (Exchange.mk request (Desk.answer m request d).1).settlement?.isSome = true) :
    request.UsesLock ∧ m.stalled = none := by
  cases request with
  | clock | token | findUser | findAsset | findBalance | findOrder | ordersOf | log
  | saveIfStatus => cases h
  | commit side order =>
    obtain ⟨e, he⟩ | ⟨balance, hstalled, -⟩ := d.commit_cases m side order
    · rw [show Desk.answer m (.commit side order) d = _ from he] at h
      cases h
    · exact ⟨trivial, hstalled⟩

variable {s : Traffic α} {call : Nat} {m : Moment}

/-- A request that is answered at once is answered by the settled desk. -/
theorem takes_answered {request : Request} {next : request.Answer → Program α}
    (hasked : s.calls[call]? = some (.ask request next))
    (hlock : request.UsesLock ∧ m.stalled = none → s.lock = .free) :
    Takes s (s.answered call m request next)
      ⟨⟨request, (Desk.answer m request s.desk).1⟩, call, m⟩ next := by
  have hfree : (Exchange.mk request (Desk.answer m request s.desk).1).settlement?.isSome = true →
      s.desk = s.settled := by
    intro hsome
    simp [settled, hlock (stalled_of_settlement hsome)]
  cases hs : s.lock with
  | free => exact ⟨hasked, by simp [settled, hs], by simp [settled, answered, hs], rfl, rfl, hfree⟩
  | charged =>
    exact ⟨hasked, by simp [settled, hs], by simp [settled, answered, hs], rfl, rfl, hfree⟩
  | stored holder balance =>
    have hput := answer_putBalance m request s.desk balance fun huses hstalled => by
      simp [hs] at hlock
      exact hlock huses hstalled
    exact ⟨hasked, by simp [settled, hs, hput], by simp [settled, answered, hs, hput], rfl, rfl,
      hfree⟩

/-- A call rests, or it takes a turn at a moment. -/
def Goes (s s' : Traffic α) (call : Nat) (m : Moment) : Prop :=
  Rests s s' ∨ ∃ turn next, Takes s s' turn next ∧ turn.call = call ∧ turn.moment = m

/-- A state in which nothing has happened. -/
theorem Rests.refl (s : Traffic α) : Rests s s :=
  ⟨rfl, rfl, rfl⟩

/-- Who gets the lock goes on. -/
theorem goes_acquire {request : Request} {next : request.Answer → Program α}
    (hasked : s.calls[call]? = some (.ask request next)) (hfree : s.lock = .free) :
    Goes s (s.acquire call m request next) call m := by
  have htakes := takes_answered (m := m) hasked fun _ => hfree
  have hturn : Goes s (s.answered call m request next) call m := .inr ⟨_, _, htakes, rfl, rfl⟩
  cases request with
  | clock | token | findUser | findAsset | findBalance | findOrder | ordersOf | log
  | saveIfStatus => exact hturn
  | commit side order =>
    simp only [acquire]
    cases Desk.charge side (s.desk.balanceOf order.username m.now) order.totalAmount m.now with
    | ok balance => exact .inl ⟨by simp [settled, hfree], rfl, rfl⟩
    | error e => exact hturn

/-- Who does not have the lock goes on. -/
theorem goes_advance : Goes s (s.advance call m) call m := by
  unfold advance
  split
  · next request next hasked =>
    split
    · split
      · next hfree => exact goes_acquire hasked hfree
      · exact .inl (.refl s)
      · exact .inl (.refl s)
    · next hlock =>
      have htakes := takes_answered hasked fun h => absurd h hlock
      exact .inr ⟨_, _, htakes, rfl, rfl⟩
  · exact .inl (.refl s)

/-- Storing the order is the turn in which a commit happens on the settled desk.

**Proof sketch.** The balance was computed when the lock was taken, and nobody has changed a balance
since. So the settled desk would compute the same balance now. -/
theorem goes_store {balance : Balance} (h : s.Locked) (hlock : s.lock = .charged call m balance) :
    Goes s (s.store call m balance) call m := by
  obtain ⟨side, order, next, hasked, hstalled, hcharge⟩ := h call m balance hlock
  have hsettled : s.settled = s.desk := by simp [settled, hlock]
  have hcommit : Desk.commit s.desk m side order =
      match s.desk.persist order with
      | .ok stored => (.ok ⟨order, balance⟩, stored.putBalance balance)
      | .error e => (.error e, s.desk) := by
    simp only [Desk.commit, hstalled, Desk.settle, hcharge, bind, Except.bind]
    cases s.desk.persist order <;> rfl
  unfold store
  rw [hasked]
  dsimp only
  cases hpersist : s.desk.persist order with
  | ok stored =>
    rw [hpersist] at hcommit
    refine .inr ⟨_, next, ⟨hasked, ?_, ?_, rfl, rfl, fun _ => hsettled.symm⟩, rfl, rfl⟩
    · exact (congrArg Prod.fst (hsettled ▸ hcommit)).symm
    · exact (congrArg Prod.snd (hsettled ▸ hcommit)).symm
  | error e =>
    rw [hpersist] at hcommit
    refine .inr ⟨_, next, ⟨hasked, ?_, ?_, rfl, rfl, fun _ => hsettled.symm⟩, rfl, rfl⟩
    · exact (congrArg Prod.fst (hsettled ▸ hcommit)).symm
    · rw [hsettled]
      exact (congrArg Prod.snd hcommit).symm

/-- A turn belongs to a choice: the choice is that of the call, at this moment or, for a call that
goes on with its commit, at a later one. -/
def Belongs (s : Traffic α) (c : Choice) (turn : Turn) : Prop :=
  c = .turn turn.call turn.moment ∨ ∃ balance, s.lock = .charged turn.call turn.moment balance

/-- All that a step can do: nothing on the settled desk, or one turn, or an entry is set from
outside. -/
theorem step_cases (h : s.Locked) (c : Choice) :
    Rests s (s.step c) ∨ (∃ turn next, Takes s (s.step c) turn next ∧ s.Belongs c turn) ∨
    ∃ m task, c = .upkeep m task ∧ (s.step c).settled = task.entered s.settled m.now ∧
      (s.step c).calls = s.calls ∧ (s.step c).trace = s.trace := by
  cases c with
  | abandon =>
    refine .inl ?_
    simp only [step, abandon]
    split
    · next hlock => exact ⟨by simp [settled, hlock], rfl, rfl⟩
    · exact .refl s
    · exact .refl s
  | upkeep m task =>
    cases task with
    | user u =>
      refine .inr (.inr ⟨m, _, rfl, ?_, rfl, rfl⟩)
      cases hs : s.lock with
      | free | charged => simp only [settled, step, upkeep, hs, Upkeep.entered]
      | stored => simp only [settled, step, upkeep, hs, Upkeep.entered]; rfl
    | asset a =>
      refine .inr (.inr ⟨m, _, rfl, ?_, rfl, rfl⟩)
      cases hs : s.lock with
      | free | charged => simp only [settled, step, upkeep, hs, Upkeep.entered]
      | stored => simp only [settled, step, upkeep, hs, Upkeep.entered]; rfl
    | balance username amount =>
      simp only [step, upkeep, Desk.setBalance]
      cases hs : s.lock with
      | free =>
        cases m.stalled with
        | none => exact .inr (.inr ⟨m, _, rfl, by simp [settled, hs, Upkeep.entered], rfl, rfl⟩)
        | some ms => exact .inl (.refl s)
      | charged | stored => exact .inl (.refl s)
  | turn call m =>
    have hgoes : Goes s (s.advance call m) call m → Rests s (s.advance call m) ∨
        ∃ turn next, Takes s (s.advance call m) turn next ∧ s.Belongs (.turn call m) turn := by
      rintro (hrests | ⟨turn, next, htakes, rfl, rfl⟩)
      · exact .inl hrests
      · exact .inr ⟨turn, next, htakes, .inl rfl⟩
    rw [← or_assoc]
    refine .inl ?_
    simp only [step, turn]
    cases hs : s.lock with
    | free => exact hgoes goes_advance
    | charged holder acquired balance =>
      dsimp only
      split
      · next hholder =>
        subst hholder
        obtain hrests | ⟨turn, next, htakes, hcall, hmoment⟩ := goes_store h hs
        · exact .inl hrests
        · exact .inr ⟨turn, next, htakes, .inr ⟨balance, by rw [hs, hcall, hmoment]⟩⟩
      · exact hgoes goes_advance
    | stored holder balance =>
      dsimp only
      split
      · exact .inl ⟨by simp [settled, hs], rfl, rfl⟩
      · exact hgoes goes_advance

/-! ## The balance lock -/

/-- Nobody has the lock. -/
theorem locked_of_free (h : s.lock = .free) : s.Locked := by
  intro call m balance hlock
  rw [h] at hlock
  cases hlock

/-- A commit has stored its order. -/
theorem locked_of_stored {holder : Nat} {balance : Balance} (h : s.lock = .stored holder balance) :
    s.Locked := by
  intro call m balance hlock
  rw [h] at hlock
  cases hlock

/-- Nobody changes a balance without the lock. -/
theorem balances_answer {request : Request} (d : Desk)
    (h : ¬(request.UsesLock ∧ m.stalled = none)) :
    (Desk.answer m request d).2.balances = d.balances := by
  cases request with
  | clock | token | findUser | findAsset | findBalance | findOrder | ordersOf | log => rfl
  | saveIfStatus order expected =>
    obtain ⟨-, he⟩ | ⟨_, -, -, he⟩ | ⟨_, -, -, he⟩ := d.saveIfStatus_cases order expected
    · rw [show Desk.answer m (.saveIfStatus order expected) d = _ from he]
    · rw [show Desk.answer m (.saveIfStatus order expected) d = _ from he]
    · rw [show Desk.answer m (.saveIfStatus order expected) d = _ from he]
      rfl
  | commit side order =>
    obtain ⟨e, he⟩ | ⟨_, hstalled, -⟩ := d.commit_cases m side order
    · rw [show Desk.answer m (.commit side order) d = _ from he]
    · exact absurd ⟨trivial, hstalled⟩ h

/-- Answering somebody else leaves the commit under way as it is. -/
theorem Locked.answered {request : Request} {next : request.Answer → Program α} (h : s.Locked)
    (hlock : ¬(request.UsesLock ∧ m.stalled = none))
    (hother : ∀ holder acquired balance, s.lock = .charged holder acquired balance →
      holder ≠ call) : (s.answered call m request next).Locked := by
  intro holder acquired balance hs
  obtain ⟨side, order, next', hasked, hstalled, hcharge⟩ := h holder acquired balance hs
  refine ⟨side, order, next', ?_, hstalled, ?_⟩
  · rw [← hasked]
    exact List.getElem?_set_ne (hother holder acquired balance hs).symm
  · rw [← hcharge]
    simp only [Traffic.answered, Desk.balanceOf, balances_answer s.desk hlock]

/-- Who does not have the lock leaves the commit under way as it is, or begins one. -/
theorem Locked.advance (h : s.Locked)
    (hother : ∀ holder acquired balance, s.lock = .charged holder acquired balance →
      holder ≠ call) : (s.advance call m).Locked := by
  unfold Traffic.advance
  split
  · next request next hasked =>
    split
    · next huses =>
      cases hs : s.lock with
      | charged | stored => exact h
      | free =>
        cases request with
        | clock | token | findUser | findAsset | findBalance | findOrder | ordersOf | log
        | saveIfStatus => exact locked_of_free hs
        | commit side order =>
          simp only [acquire]
          cases hcharge : Desk.charge side (s.desk.balanceOf order.username m.now)
              order.totalAmount m.now with
          | error e => exact locked_of_free hs
          | ok balance =>
            rintro _ _ _ ⟨⟩
            exact ⟨side, order, next, hasked, huses.2, hcharge⟩
    · next hlock => exact h.answered hlock hother
  · exact h

/-- Storing an order ends the first part of a commit. -/
theorem Locked.store {balance : Balance} (h : s.Locked)
    (hlock : s.lock = .charged call m balance) : (s.store call m balance).Locked := by
  obtain ⟨side, order, next, hasked, -, -⟩ := h call m balance hlock
  unfold Traffic.store
  rw [hasked]
  dsimp only
  cases s.desk.persist order with
  | ok stored => exact locked_of_stored rfl
  | error e => exact locked_of_free rfl

/-- A step leaves the lock with somebody who is about to commit. -/
theorem Locked.step (h : s.Locked) (c : Choice) : (s.step c).Locked := by
  cases c with
  | abandon =>
    simp only [Traffic.step, abandon]
    split
    · exact locked_of_free rfl
    · exact h
    · exact h
  | upkeep m task =>
    cases task with
    | user u => exact h
    | asset a => exact h
    | balance username amount =>
      simp only [Traffic.step, upkeep, Desk.setBalance]
      cases hs : s.lock with
      | charged | stored => exact h
      | free =>
        cases m.stalled with
        | none => exact locked_of_free rfl
        | some ms => exact h
  | turn call m =>
    simp only [Traffic.step, Traffic.turn]
    cases hs : s.lock with
    | free => exact h.advance (by simp [hs])
    | charged holder acquired balance =>
      dsimp only
      split
      · next hholder => exact hholder ▸ h.store hs
      · next hholder =>
        refine h.advance ?_
        rintro _ _ _ hs'
        cases hs.symm.trans hs'
        exact hholder
    | stored holder balance =>
      dsimp only
      split
      · exact locked_of_free rfl
      · exact h.advance (by simp [hs])

/-- All that a step can do to the lock. -/
inductive Shifts (s s' : Traffic α) (c : Choice) : Prop where
  | same (hlock : s'.lock = s.lock)
  | freed (hlock : s'.lock = .free)
  /-- A call gets the lock. -/
  | charged {call : Nat} {m : Moment} {balance : Balance} (hchoice : c = .turn call m)
      (hlock : s'.lock = .charged call m balance)
  /-- The commit that has the lock stores its order. -/
  | stored {call : Nat} {balance : Balance} {side : Side} {order : Order}
      {next : (Request.commit side order).Answer → Program α}
      (hlock : s'.lock = .stored call balance)
      (hasked : s.calls[call]? = some (.ask (.commit side order) next))
      (hcalls : s'.calls = s.calls.set call (next (.ok ⟨order, balance⟩)))

/-- Who does not have the lock leaves it as it is, or gets it. -/
theorem shifts_advance : Shifts s (s.advance call m) (.turn call m) := by
  unfold advance
  split
  · next request next hasked =>
    split
    · cases hs : s.lock with
      | charged | stored => exact .same rfl
      | free =>
        cases request with
        | clock | token | findUser | findAsset | findBalance | findOrder | ordersOf | log
        | saveIfStatus => exact .same rfl
        | commit side order =>
          simp only [acquire]
          split
          · exact .charged rfl rfl
          · exact .same rfl
    · exact .same rfl
  · exact .same rfl

/-- A step does one thing to the lock. -/
theorem shifts_step (s : Traffic α) (c : Choice) : Shifts s (s.step c) c := by
  cases c with
  | abandon =>
    simp only [step, abandon]
    split
    · exact .freed rfl
    · exact .same rfl
    · exact .same rfl
  | upkeep m task =>
    cases task with
    | user | asset => exact .same rfl
    | balance username amount =>
      simp only [step, upkeep]
      split
      · split <;> exact .same rfl
      · exact .same rfl
      · exact .same rfl
  | turn call m =>
    simp only [step, Traffic.turn]
    split
    · exact shifts_advance
    · split
      · unfold store
        split
        · next side order next hasked =>
          split
          · exact .stored rfl hasked rfl
          · exact .freed rfl
        · exact .same rfl
      · exact shifts_advance
    · split
      · exact .freed rfl
      · exact shifts_advance

/-- Who has computed a balance has just got the lock, or had it before. -/
theorem charged_step {c : Choice} {balance : Balance}
    (h : (s.step c).lock = .charged call m balance) :
    s.lock = .charged call m balance ∨ c = .turn call m := by
  cases s.shifts_step c with
  | same hlock => exact .inl (hlock.symm.trans h)
  | charged hchoice hlock =>
    cases hlock.symm.trans h
    exact .inr hchoice
  | freed hlock | stored hlock => cases hlock.symm.trans h

/-- Whose order is stored without its money has just stored it, or did before and has not gone on
since. -/
theorem stored_step (hlocked : s.Locked) {c : Choice} {balance : Balance}
    (h : (s.step c).lock = .stored call balance) :
    (s.lock = .stored call balance ∧ (s.step c).calls[call]? = s.calls[call]?) ∨
    ∃ side order next, s.calls[call]? = some (.ask (.commit side order) next) ∧
      (s.step c).calls[call]? = some (next (.ok ⟨order, balance⟩)) := by
  cases s.shifts_step c with
  | same hlock =>
    have hs : s.lock = .stored call balance := hlock.symm.trans h
    refine .inl ⟨hs, ?_⟩
    obtain hrests | ⟨turn, next, htakes, hbelongs⟩ | ⟨_, _, -, -, hcalls, -⟩ := step_cases hlocked c
    · rw [hrests.calls]
    · refine htakes.calls_other ?_
      rintro rfl
      obtain rfl | ⟨_, hcharged⟩ := hbelongs
      · -- a turn of this call would have given the lock back
        simp [step, Traffic.turn, hs] at h
      · cases hs.symm.trans hcharged
    · rw [hcalls]
  | stored hlock hasked hcalls =>
    cases hlock.symm.trans h
    obtain ⟨hlt, -⟩ := List.getElem?_eq_some_iff.1 hasked
    exact .inr ⟨_, _, _, hasked, by rw [hcalls, List.getElem?_set_self hlt]⟩
  | freed hlock | charged _ hlock => cases hlock.symm.trans h

/-- Turns are added to the trace, and none is taken back. -/
theorem exists_trace_step (h : s.Locked) (c : Choice) :
    ∃ more, (s.step c).trace = s.trace ++ more := by
  obtain hrests | ⟨turn, next, htakes, -⟩ | ⟨_, _, -, -, -, htrace⟩ := step_cases h c
  · exact ⟨[], by simp [hrests.trace]⟩
  · exact ⟨[turn], htakes.trace⟩
  · exact ⟨[], by simp [htrace]⟩

/-- The trace of a longer schedule goes on where the shorter one ends. -/
theorem exists_trace_play (h : s.Locked) (schedule : List Choice) :
    ∃ more, (s.play schedule).trace = s.trace ++ more := by
  induction schedule generalizing s with
  | nil => exact ⟨[], by simp [play]⟩
  | cons c schedule ih =>
    obtain ⟨first, hfirst⟩ := exists_trace_step h c
    obtain ⟨rest, hrest⟩ := ih (h.step c)
    refine ⟨first ++ rest, ?_⟩
    rw [← List.append_assoc, ← hfirst, ← hrest]
    rfl

/-- In every run the lock is with somebody who is about to commit. -/
theorem locked_play (d : Desk) (calls : List (Program α)) (schedule : List Choice) :
    ((start d calls).play schedule).Locked := by
  induction schedule using List.reverseRecOn with
  | nil => exact locked_of_free rfl
  | append_singleton schedule c ih =>
    rw [play_concat]
    exact ih.step c

end Traffic

end OrderDesk
