import OrderDesk.Proofs.Listing
import OrderDesk.Proofs.Requests
import OrderDesk.Proofs.Traffic.Asked
import OrderDesk.Proofs.Traffic.Ledger

/-!
# Whoever sees an order sees its money

A commit stores its order first and the balance afterwards, and orders are read without the balance
lock, so that for a while an order is seen without its money. Still nobody can tell: a balance is
read under the lock, which the commit keeps until the balance is stored. A commit that is given up
while it waits, or that does not have the lock in time, leaves neither.

## Main definitions

* `OrderDesk.Posting` — a balance that is written, by a commit or from outside.
* `OrderDesk.Traffic.postings` — all balances that are written along a schedule.
* `OrderDesk.Turn.Shows` — a turn in which an order is seen.
* `OrderDesk.Traffic.AllOrNothing` — what observers can tell of a commit.

## Main results

* `OrderDesk.Traffic.posts_step` — all that a step can do to balances and to the lock.
* `OrderDesk.Traffic.allOrNothing_play` — no observer sees half a commit.

## Design

What is seen of an order is a matter of the turns, what is written of a balance is a matter of the
steps: the step that stores the balance of a commit is no turn. Two invariants follow the two. The
first one says that all commits of the trace have been posted but the one under way; the second one
that an order is stored exactly if it was at first or has been committed in some turn.
-/

set_option autoImplicit false

namespace OrderDesk

/-! ## Postings -/

/-- A balance that is written. -/
inductive Posting where
  /-- A commit stores the balance of its order. -/
  | settled (settlement : Settlement)
  /-- A balance is set from outside. -/
  | entered (balance : Balance)
deriving DecidableEq

namespace Posting

/-- The balance that is written. -/
def balance : Posting → Balance
  | settled settlement => settlement.balance
  | entered balance => balance

/-- The order and the balance of a commit. -/
def settlement? : Posting → Option Settlement
  | settled settlement => some settlement
  | entered _ => none

/-- A posting has the order and the balance of a commit exactly if it is one of a commit. -/
theorem settlement?_eq_some_iff {posting : Posting} {settlement : Settlement} :
    posting.settlement? = some settlement ↔ posting = settled settlement := by
  cases posting <;> simp [settlement?]

/-- The balance of a user that was **written last**. -/
def last? (postings : List Posting) (username : Username) : Option Balance :=
  ((postings.map balance).filter (·.username = username)).getLast?

/-- What is written later counts. -/
theorem last?_append (postings more : List Posting) (username : Username) :
    last? (postings ++ more) username = (last? more username).or (last? postings username) := by
  simp [last?, List.getLast?_append]

/-- What has just been written counts. -/
theorem last?_concat (postings : List Posting) (posting : Posting) (username : Username) :
    last? (postings ++ [posting]) username =
      if posting.balance.username = username then some posting.balance
      else last? postings username := by
  rw [last?_append]
  by_cases hname : posting.balance.username = username <;> simp [last?, hname]

/-- Whoever's balance is written first has one that was written last. -/
theorem exists_last?_cons (posting : Posting) (postings : List Posting) {username : Username}
    (hname : posting.balance.username = username) :
    ∃ balance, last? (posting :: postings) username = some balance := by
  have hlast := last?_append [posting] postings username
  rw [List.singleton_append] at hlast
  rw [hlast, show last? [posting] username = some posting.balance by simp [last?, hname]]
  cases last? postings username with
  | none => exact ⟨_, rfl⟩
  | some balance => exact ⟨balance, rfl⟩

end Posting

namespace Traffic

variable {α : Type}

/-- The commits that have stored their orders, the latest last. -/
def settlements (s : Traffic α) : List Settlement :=
  s.trace.filterMap fun turn => turn.settlement?

/-- The balance that is written in a step. A commit writes its balance when it gives the lock back;
its order is the last one that was stored by a commit. -/
def posted (s : Traffic α) : Choice → Option Posting
  | .turn call _ =>
    match s.lock with
    | .stored holder balance =>
      if holder = call then s.settlements.getLast?.map fun w => .settled ⟨w.order, balance⟩
      else none
    | .free | .charged .. => none
  | .upkeep m (.balance username amount) =>
    if s.lock = .free ∧ m.stalled = none then
      some (.entered { username, current := amount, updatedAt := m.now })
    else none
  | .upkeep _ (.user _) | .upkeep _ (.asset _) | .abandon => none

/-- All balances that are written along a schedule, the latest last. -/
def postings (s : Traffic α) : List Choice → List Posting
  | [] => []
  | c :: schedule => (s.posted c).toList ++ (s.step c).postings schedule

/-- What is written along a schedule is written up to its last step, and then in its last step. -/
theorem postings_concat (s : Traffic α) (schedule : List Choice) (c : Choice) :
    s.postings (schedule ++ [c]) =
      s.postings schedule ++ ((s.play schedule).posted c).toList := by
  induction schedule generalizing s with
  | nil => simp [postings, play]
  | cons first schedule ih =>
    simp only [List.cons_append, postings, ih, List.append_assoc]
    rfl

/-- No order is stored without its money. -/
def Whole (s : Traffic α) : Prop :=
  ∀ call balance, s.lock ≠ .stored call balance

/-! ## What a step writes -/

/-- All that a step can do to balances and to the lock. -/
inductive Posts (s s' : Traffic α) : Option Posting → Prop where
  | nothing (hbalances : s'.desk.balances = s.desk.balances)
      (hsettlements : s'.settlements = s.settlements)
      (hlock : ∀ call balance, s'.lock = .stored call balance ↔ s.lock = .stored call balance) :
      Posts s s' none
  /-- A commit stores its order. -/
  | order {call : Nat} {settlement : Settlement}
      (hbalances : s'.desk.balances = s.desk.balances)
      (hsettlements : s'.settlements = s.settlements ++ [settlement])
      (hwhole : s.Whole) (hlock : s'.lock = .stored call settlement.balance) :
      Posts s s' none
  /-- A commit stores its balance. -/
  | settled {call : Nat} {balance : Balance}
      (hbalances : s'.desk = s.desk.putBalance balance)
      (hsettlements : s'.settlements = s.settlements)
      (hlock : s.lock = .stored call balance) (hwhole : s'.Whole) :
      Posts s s' (s.settlements.getLast?.map fun w => .settled ⟨w.order, balance⟩)
  /-- A balance is set from outside. -/
  | entered {balance : Balance} (hbalances : s'.desk = s.desk.putBalance balance)
      (hsettlements : s'.settlements = s.settlements) (hwhole : s.Whole) (hwhole' : s'.Whole) :
      Posts s s' (some (.entered balance))

variable {s : Traffic α} {call : Nat} {m : Moment}

/-- A turn that is taken adds its commit, if it is one that succeeds. -/
theorem settlements_of_trace {s' : Traffic α} {turn : Turn} (h : s'.trace = s.trace ++ [turn]) :
    s'.settlements = s.settlements ++ turn.settlement?.toList := by
  unfold settlements
  rw [h, List.filterMap_append]
  cases hsettled : turn.settlement? <;> simp [hsettled]

/-- A request that is answered at once is a commit that succeeds, or adds none. -/
theorem settlements_answered (s : Traffic α) (call : Nat) (m : Moment) (request : Request)
    (next : request.Answer → Program α) :
    (s.answered call m request next).settlements = s.settlements ++
      (Exchange.settlement? ⟨request, (Desk.answer m request s.desk).1⟩).toList := by
  have htrace : (s.answered call m request next).trace =
      s.trace ++ [⟨⟨request, (Desk.answer m request s.desk).1⟩, call, m⟩] := rfl
  exact settlements_of_trace htrace

/-- A request that is answered at once writes no balance, unless it is a commit that can have the
lock. -/
theorem posts_answered {request : Request} {next : request.Answer → Program α}
    (h : ¬(request.UsesLock ∧ m.stalled = none)) :
    Posts s (s.answered call m request next) none := by
  refine .nothing (balances_answer s.desk h) ?_ fun _ _ => Iff.rfl
  have hnone : (Exchange.mk request (Desk.answer m request s.desk).1).settlement? = none := by
    rw [← Option.not_isSome_iff_eq_none]
    exact fun hsome => h (stalled_of_settlement hsome)
  rw [settlements_answered, hnone]
  exact List.append_nil _

/-- A step after which balances, commits and lock are as before. -/
theorem Posts.refl (s : Traffic α) : Posts s s none :=
  .nothing rfl rfl fun _ _ => Iff.rfl

/-- Who gets the lock writes nothing yet. -/
theorem posts_acquire {request : Request} {next : request.Answer → Program α}
    (hfree : s.lock = .free) : Posts s (s.acquire call m request next) none := by
  cases request with
  | clock | token | findUser | findAsset | findBalance | findOrder | ordersOf | log =>
    refine .nothing rfl ?_ fun _ _ => Iff.rfl
    exact (settlements_answered s call m _ next).trans (List.append_nil _)
  | saveIfStatus changed expected =>
    have hlock : ¬((Request.saveIfStatus changed expected).UsesLock ∧ m.stalled = none) :=
      fun h => h.1
    exact posts_answered hlock
  | commit side order =>
    simp only [acquire]
    cases hcharge : Desk.charge side (s.desk.balanceOf order.username m.now) order.totalAmount
        m.now with
    | ok balance => exact .nothing rfl rfl fun _ _ => by simp [hfree]
    | error e =>
      obtain ⟨failure, he⟩ | ⟨_, -, hcharge', -⟩ := s.desk.commit_cases m side order
      · refine .nothing ?_ ?_ fun _ _ => Iff.rfl
        · simp [answered, Desk.answer, he]
        · rw [settlements_answered, show Desk.answer m (.commit side order) s.desk = _ from he]
          exact List.append_nil _
      · cases hcharge.symm.trans hcharge'

/-- Who does not have the lock writes nothing. -/
theorem posts_advance : Posts s (s.advance call m) none := by
  unfold advance
  split
  · next request next _ =>
    split
    · split
      · next hfree => exact posts_acquire hfree
      · exact .refl s
      · exact .refl s
    · next hlock => exact posts_answered hlock
  · exact .refl s

/-- Storing an order writes no balance yet, and an order that cannot be stored writes none. -/
theorem posts_store {balance : Balance} (h : s.Locked) (hlock : s.lock = .charged call m balance) :
    Posts s (s.store call m balance) none := by
  obtain ⟨side, order, next, hasked, -, -⟩ := h call m balance hlock
  have hwhole : s.Whole := by simp [Whole, hlock]
  unfold store
  rw [hasked]
  dsimp only
  cases hpersist : s.desk.persist order with
  | ok stored =>
    obtain ⟨-, rfl⟩ := s.desk.persist_eq_ok_iff.1 hpersist
    have hstored : Lock.stored call balance = .stored call (Settlement.balance ⟨order, balance⟩) :=
      rfl
    refine .order rfl ?_ hwhole hstored
    simp [settlements, Exchange.settlement?]
  | error e =>
    refine .nothing rfl ?_ fun _ _ => by simp [hlock]
    simp [settlements, Exchange.settlement?]

/-- A step writes what is posted. -/
theorem posts_step (h : s.Locked) (c : Choice) : Posts s (s.step c) (s.posted c) := by
  cases c with
  | abandon =>
    simp only [step, abandon, posted]
    split
    · next hlock => exact .nothing rfl rfl fun _ _ => by simp [hlock]
    · exact .refl s
    · exact .refl s
  | upkeep m task =>
    cases task with
    | user | asset => exact .nothing rfl rfl fun _ _ => Iff.rfl
    | balance username amount =>
      simp only [step, upkeep, posted, Desk.setBalance]
      cases hs : s.lock with
      | charged | stored => simpa using .refl s
      | free =>
        cases m.stalled with
        | none => exact .entered rfl rfl (by simp [Whole, hs]) (by simp [Whole])
        | some ms => simpa using .refl s
  | turn call m =>
    simp only [step, turn, posted]
    cases hs : s.lock with
    | free => exact posts_advance
    | charged holder acquired balance =>
      dsimp only
      split
      · next hholder =>
        subst hholder
        exact posts_store h hs
      · exact posts_advance
    | stored holder balance =>
      dsimp only
      split
      · exact .settled rfl rfl hs (by simp [Whole])
      · exact posts_advance

/-! ## What is posted -/

/-- The books are **kept**: a balance is the one that was written last, and all commits have been
posted but the one that has yet to store its balance. -/
structure Booked (d : Desk) (s : Traffic α) (log : List Posting) : Prop where
  balances : ∀ username, s.desk.balances.get? username =
    (Posting.last? log username).or (d.balances.get? username)
  whole : s.Whole → s.settlements = log.filterMap Posting.settlement?
  half : ∀ call balance, s.lock = .stored call balance →
    ∃ order, s.settlements = log.filterMap Posting.settlement? ++ [⟨order, balance⟩]

/-- The balances that are found after one has been written. -/
theorem Booked.balances_concat {d : Desk} {log : List Posting} (h : Booked d s log)
    (posting : Posting) (username : Username) :
    (s.desk.putBalance posting.balance).balances.get? username =
      (Posting.last? (log ++ [posting]) username).or (d.balances.get? username) := by
  rw [Desk.get?_balances_putBalance, Posting.last?_concat]
  split
  · rfl
  · exact h.balances username

/-- What has been posted for a commit is the balance of a commit that has stored its order. -/
theorem Booked.mem_settlements {d : Desk} {log : List Posting} (h : Booked d s log)
    {w : Settlement} (hw : .settled w ∈ log) : w ∈ s.settlements := by
  have hposted : w ∈ log.filterMap Posting.settlement? :=
    List.mem_filterMap.2 ⟨_, hw, Posting.settlement?_eq_some_iff.2 rfl⟩
  by_cases hwhole : s.Whole
  · rw [h.whole hwhole]
    exact hposted
  · simp only [Whole, ne_eq, not_forall, not_not] at hwhole
    obtain ⟨call, balance, hlock⟩ := hwhole
    obtain ⟨order, hlast⟩ := h.half call balance hlock
    rw [hlast]
    exact List.mem_append_left _ hposted

/-- A step keeps the books. -/
theorem Booked.step {d : Desk} {log : List Posting} (h : Booked d s log) (hlocked : s.Locked)
    (c : Choice) : Booked d (s.step c) (log ++ (s.posted c).toList) := by
  have hposts := posts_step hlocked c
  generalize s.posted c = posting at hposts ⊢
  cases hposts with
  | nothing hbalances hsettlements hlock =>
    have hwhole : (s.step c).Whole → s.Whole := fun hs call balance hstored =>
      hs call balance ((hlock call balance).2 hstored)
    simp only [Option.toList_none, List.append_nil]
    refine ⟨fun username => ?_, fun hs => ?_, fun call balance hs => ?_⟩
    · rw [hbalances]
      exact h.balances username
    · rw [hsettlements]
      exact h.whole (hwhole hs)
    · rw [hsettlements]
      exact h.half call balance ((hlock call balance).1 hs)
  | @order call settlement hbalances hsettlements hwhole hlock =>
    simp only [Option.toList_none, List.append_nil]
    refine ⟨fun username => ?_, fun hs => absurd hlock (hs _ _), fun holder balance hs => ?_⟩
    · rw [hbalances]
      exact h.balances username
    · obtain rfl : settlement.balance = balance := by
        cases hlock.symm.trans hs
        rfl
      exact ⟨settlement.order, by rw [hsettlements, h.whole hwhole]⟩
  | @settled call balance hdesk hsettlements hlock hwhole =>
    obtain ⟨order, hlast⟩ := h.half call balance hlock
    rw [hlast, List.getLast?_concat]
    refine ⟨fun username => ?_, fun _ => ?_, fun _ _ hs => absurd hs (hwhole _ _)⟩
    · rw [hdesk]
      exact h.balances_concat (.settled ⟨order, balance⟩) username
    · rw [hsettlements, hlast]
      simp [Posting.settlement?]
  | @entered balance hdesk hsettlements hwhole hwhole' =>
    refine ⟨fun username => ?_, fun _ => ?_, fun _ _ hs => absurd hs (hwhole' _ _)⟩
    · rw [hdesk]
      exact h.balances_concat (.entered balance) username
    · rw [hsettlements, h.whole hwhole]
      simp [Posting.settlement?]

/-- In every run the books are kept. -/
theorem booked_play (d : Desk) (calls : List (Program α)) (schedule : List Choice) :
    Booked d ((start d calls).play schedule) ((start d calls).postings schedule) := by
  induction schedule using List.reverseRecOn with
  | nil =>
    exact ⟨fun _ => rfl, fun _ => rfl, fun _ _ hs => by cases hs⟩
  | append_singleton schedule c ih =>
    rw [play_concat, postings_concat]
    exact ih.step (locked_play d calls schedule) c

end Traffic

/-! ## What is seen -/

/-- The request replaces no stored order. -/
def Request.KeepsOrders : Request → Prop
  | saveIfStatus .. => False
  | clock | token | findUser _ | findAsset _ | findBalance _ | findOrder _ | ordersOf .. | commit ..
  | log _ => True

/-- A call to place an order or to look orders up replaces no stored order. -/
theorem Call.asksOnly_keepsOrders (defaultLimit : Nat) (call : Call)
    (h : ∀ changed expected, ¬call.MayAsk (.saveIfStatus changed expected)) :
    Service.AsksOnly Request.KeepsOrders (call.service defaultLimit) := by
  refine (call.asksOnly_mayAsk defaultLimit).mono fun request hasks => ?_
  cases request with
  | saveIfStatus changed expected => exact h changed expected hasks
  | clock | token | findUser | findAsset | findBalance | findOrder | ordersOf | commit | log =>
    trivial

/-- An order is **seen** in the answer to a request for it or for the orders of a user. -/
def Exchange.Shows : Exchange → Order → Prop
  | ⟨.findOrder _, answer⟩, order => answer = .ok (some order)
  | ⟨.ordersOf .., answer⟩, order => ∃ orders, answer = .ok orders ∧ order ∈ orders
  | _, _ => False

namespace Desk

variable {d : Desk} {m : Moment} {request : Request}

/-- What is seen is stored. -/
theorem get?_of_shows (hd : d.Keyed) {order : Order}
    (h : (Exchange.mk request (Desk.answer m request d).1).Shows order) :
    d.orders.get? order.orderId = some order := by
  cases request with
  | clock | token | findUser | findAsset | findBalance | saveIfStatus | commit | log => exact h.elim
  | findOrder orderId =>
    have hfound : d.orders.get? orderId = some order := Except.ok.inj h
    obtain rfl := hd.orders orderId order hfound
    exact hfound
  | ordersOf owner status limit =>
    obtain ⟨orders, hlisted, hmem⟩ := h
    obtain rfl : d.ordersOf owner status limit = orders := Except.ok.inj hlisted
    exact get?_of_mem_ordersOf hd.orders hmem

/-- All that a request can do to orders if it replaces none: nothing, or it commits a new order with
the balance of its owner. -/
theorem answer_keepsOrders (hd : d.Keyed) (m : Moment) (hkeeps : request.KeepsOrders) :
    ((Exchange.mk request (Desk.answer m request d).1).settlement? = none ∧
      (Desk.answer m request d).2.orders = d.orders) ∨
    ∃ order balance,
      (Exchange.mk request (Desk.answer m request d).1).settlement? = some ⟨order, balance⟩ ∧
      balance.username = order.username ∧ d.orders.get? order.orderId = none ∧
      (Desk.answer m request d).2.orders = (d.putOrder order).orders := by
  cases request with
  | saveIfStatus => exact hkeeps.elim
  | clock | token | findUser | findAsset | findBalance | findOrder | ordersOf | log =>
    exact .inl ⟨rfl, rfl⟩
  | commit side order =>
    obtain ⟨e, he⟩ | ⟨balance, -, hcharge, hnew, he⟩ := d.commit_cases m side order
    · rw [show Desk.answer m (.commit side order) d = _ from he]
      exact .inl ⟨rfl, rfl⟩
    · rw [show Desk.answer m (.commit side order) d = _ from he]
      refine .inr ⟨order, balance, rfl, ?_, hnew, rfl⟩
      rw [username_of_charge hcharge, username_balanceOf hd.balances]

end Desk

namespace Traffic

variable {α : Type} {s s' : Traffic α} {d : Desk}

/-- The orders are **accounted for**: an order is stored exactly if it was at first or has been
committed, a commit has the balance of its owner, and whatever has been seen is stored. -/
structure Accounted (d : Desk) (s : Traffic α) : Prop where
  stored : ∀ order, s.settled.orders.get? order.orderId = some order ↔
    d.orders.get? order.orderId = some order ∨ ∃ balance, ⟨order, balance⟩ ∈ s.settlements
  owner : ∀ w ∈ s.settlements, w.balance.username = w.order.username
  seen : ∀ turn ∈ s.trace, ∀ order, turn.Shows order →
    s.settled.orders.get? order.orderId = some order

/-- Nothing is stored and nothing is committed. -/
theorem Accounted.same (h : Accounted d s) (horders : s'.settled.orders = s.settled.orders)
    (hsettlements : s'.settlements = s.settlements)
    (hseen : ∀ turn ∈ s'.trace, ∀ order, turn.Shows order →
      s.settled.orders.get? order.orderId = some order) : Accounted d s' where
  stored order := by
    rw [horders, hsettlements]
    exact h.stored order
  owner := hsettlements ▸ h.owner
  seen := horders ▸ hseen

/-- A new order is stored and committed. -/
theorem Accounted.settle (h : Accounted d s) {order : Order} {balance : Balance}
    (hnew : s.settled.orders.get? order.orderId = none)
    (howner : balance.username = order.username)
    (horders : s'.settled.orders = (s.settled.putOrder order).orders)
    (hsettlements : s'.settlements = s.settlements ++ [⟨order, balance⟩])
    (hseen : ∀ turn ∈ s'.trace, ∀ order, turn.Shows order →
      s.settled.orders.get? order.orderId = some order) : Accounted d s' := by
  have hget (orderId : OrderId) : s'.settled.orders.get? orderId =
      if order.orderId = orderId then some order else s.settled.orders.get? orderId := by
    rw [horders, Desk.get?_orders_putOrder]
  have hother {other : Order} (hstored : s.settled.orders.get? other.orderId = some other) :
      order.orderId ≠ other.orderId := by
    intro hid
    rw [← hid, hnew] at hstored
    cases hstored
  refine ⟨fun other => ?_, fun w hw => ?_, fun turn hturn other hshows => ?_⟩
  · rw [hget, hsettlements]
    by_cases hid : order.orderId = other.orderId
    · -- the order ID was not taken, so whatever is stored under it has just been committed
      have hfirst : d.orders.get? other.orderId ≠ some other := fun hd =>
        hother ((h.stored other).2 (.inl hd)) hid
      have hearlier : ∀ balance, ⟨other, balance⟩ ∉ s.settlements := fun balance hw =>
        hother ((h.stored other).2 (.inr ⟨balance, hw⟩)) hid
      simp [hid, hfirst, hearlier, eq_comm]
    · have hdiffers (balance' : Balance) : Settlement.mk other balance' ≠ ⟨order, balance⟩ := by
        rintro ⟨⟩
        exact hid rfl
      simp [hid, hdiffers, h.stored other]
  · rw [hsettlements] at hw
    rcases List.mem_append.1 hw with hbefore | hlast
    · exact h.owner w hbefore
    · obtain rfl := List.mem_singleton.1 hlast
      exact howner
  · have hbefore := hseen turn hturn other hshows
    rw [hget, if_neg (hother hbefore), hbefore]

/-- A turn that replaces no stored order. -/
theorem Accounted.takes (h : Accounted d s) (hkeyed : s.settled.Keyed) {turn : Turn}
    {next : turn.request.Answer → Program α} (htakes : s.Takes s' turn next)
    (hkeeps : turn.request.KeepsOrders) : Accounted d s' := by
  obtain ⟨⟨request, answer⟩, call, m⟩ := turn
  have hanswer := htakes.answer
  have hsettled := htakes.settled
  have hsettlements := settlements_of_trace htakes.trace
  dsimp only at hanswer hsettled hkeeps
  subst hanswer
  -- what is seen in this turn is stored before it
  have hseen : ∀ turn ∈ s'.trace, ∀ order, turn.Shows order →
      s.settled.orders.get? order.orderId = some order := by
    intro turn hturn order hshows
    rw [htakes.trace] at hturn
    rcases List.mem_append.1 hturn with hbefore | hlast
    · exact h.seen turn hbefore order hshows
    · obtain rfl := List.mem_singleton.1 hlast
      exact Desk.get?_of_shows hkeyed hshows
  obtain ⟨hnone, horders⟩ | ⟨order, balance, hsome, howner, hnew, horders⟩ :=
    Desk.answer_keepsOrders hkeyed m hkeeps
  · rw [hnone, Option.toList_none, List.append_nil] at hsettlements
    exact h.same (hsettled ▸ horders) hsettlements hseen
  · rw [hsome, Option.toList_some] at hsettlements
    exact h.settle hnew howner (hsettled ▸ horders) hsettlements hseen

/-- A step that replaces no stored order. -/
theorem Accounted.step (h : Accounted d s) (hlocked : s.Locked) (hkeyed : s.settled.Keyed)
    (c : Choice) (hkeeps : ∀ turn ∈ (s.step c).trace, turn.request.KeepsOrders) :
    Accounted d (s.step c) := by
  have hsame (htrace : (s.step c).trace = s.trace)
      (horders : (s.step c).settled.orders = s.settled.orders) : Accounted d (s.step c) := by
    have hsettlements : (s.step c).settlements = s.settlements := by
      unfold settlements
      rw [htrace]
    exact h.same horders hsettlements (htrace ▸ h.seen)
  obtain hrests | ⟨turn, next, htakes, -⟩ | ⟨m, task, -, hsettled, -, htrace⟩ :=
    step_cases hlocked c
  · exact hsame hrests.trace (by rw [hrests.settled])
  · refine h.takes hkeyed htakes (hkeeps turn ?_)
    simp [htakes.trace]
  · refine hsame htrace ?_
    rw [hsettled]
    cases task <;> rfl

/-- In every run of calls that replace no stored order, the orders are accounted for. -/
theorem accounted_play (hd : d.Keyed) (calls : List (Program α))
    (hcalls : ∀ p ∈ calls, p.Keeps (Service.only Request.KeepsOrders) (fun _ _ => True) ())
    (schedule : List Choice) : Accounted d ((start d calls).play schedule) := by
  have hasked (schedule : List Choice) : ∀ turn ∈ ((start d calls).play schedule).trace,
      turn.request.KeepsOrders := fun _ =>
    asked_play d calls (fun _ p hp => hcalls p (List.mem_of_getElem? hp)) schedule
  induction schedule using List.reverseRecOn with
  | nil =>
    refine ⟨fun order => ?_, fun w hw => absurd hw List.not_mem_nil,
      fun turn hturn => absurd hturn List.not_mem_nil⟩
    change d.orders.get? order.orderId = some order ↔
      d.orders.get? order.orderId = some order ∨ ∃ balance, (⟨order, balance⟩ : Settlement) ∈ []
    simp
  | append_singleton schedule c ih =>
    have hlast := hasked (schedule ++ [c])
    rw [play_concat] at hlast ⊢
    exact ih.step (locked_play d calls schedule) (keyed_settled_play hd calls schedule) c hlast

/-! ## What observers can tell -/

/-- Without an order that waits for its money, the desk is settled. -/
theorem settled_of_whole (h : s.Whole) : s.settled = s.desk := by
  unfold settled
  cases hs : s.lock with
  | free | charged => rfl
  | stored call balance => exact absurd hs (h call balance)

/-- A request that needs the balance lock, and does not give up on it, is answered only while no
order waits for its money. -/
theorem whole_of_turn {c : Choice} {turn : Turn} (htrace : (s.step c).trace = s.trace ++ [turn])
    (huses : turn.request.UsesLock ∧ turn.moment.stalled = none) : s.Whole := by
  intro holder balance hlock
  have hsame : s.trace ≠ s.trace ++ [turn] := by simp
  cases c with
  | abandon =>
    simp only [step, abandon, hlock] at htrace
    exact hsame htrace
  | upkeep m task =>
    cases task with
    | user | asset => exact hsame htrace
    | balance username amount =>
      simp only [step, upkeep, hlock] at htrace
      exact hsame htrace
  | turn call m =>
    simp only [step, Traffic.turn, hlock] at htrace
    split at htrace
    · exact hsame htrace
    · unfold advance at htrace
      split at htrace
      · next request next _ =>
        split at htrace
        · rw [hlock] at htrace
          exact hsame htrace
        · next hwaits =>
          obtain rfl := List.singleton_inj.1 (List.append_cancel_left htrace)
          exact hwaits huses
      · exact hsame htrace

/-- A balance that is read is the one that is stored, and no order waits for its money. -/
theorem found_of_read (hlocked : s.Locked) {c : Choice} {read : Turn} {username : Username}
    {found : Option Balance} (htrace : (s.step c).trace = s.trace ++ [read])
    (hread : read.toExchange = ⟨.findBalance username.text, .ok found⟩) :
    s.Whole ∧ found = s.desk.balances.get? username := by
  obtain ⟨⟨request, answer⟩, call, m⟩ := read
  cases hread
  obtain ⟨next, htakes⟩ : ∃ next, s.Takes (s.step c)
      ⟨⟨.findBalance username.text, .ok found⟩, call, m⟩ next := by
    obtain hrests | ⟨turn, next, htakes, -⟩ | ⟨_, _, -, -, -, hsame⟩ := step_cases hlocked c
    · simp [hrests.trace] at htrace
    · obtain rfl := List.singleton_inj.1 (List.append_cancel_left (htakes.trace.symm.trans htrace))
      exact ⟨next, htakes⟩
    · simp [hsame] at htrace
  have hanswer : .ok found = s.settled.readBalance m username := htakes.answer
  unfold Desk.readBalance at hanswer
  cases hstalled : m.stalled with
  | some ms =>
    rw [hstalled] at hanswer
    cases hanswer
  | none =>
    rw [hstalled] at hanswer
    have hwhole : s.Whole := whole_of_turn htrace ⟨trivial, hstalled⟩
    rw [settled_of_whole hwhole] at hanswer
    exact ⟨hwhole, Except.ok.inj hanswer⟩

/-- A commit is **all or nothing** to observers of a run, whose postings are `log`. -/
structure AllOrNothing (d : Desk) (s : Traffic α) (log : List Posting) : Prop where
  /-- A balance is the one that was written last. -/
  written : ∀ username, s.desk.balances.get? username =
    (Posting.last? log username).or (d.balances.get? username)
  /-- The balances of commits that are written are those of commits that have succeeded. -/
  committed : ∀ w, .settled w ∈ log → ∃ turn ∈ s.trace, turn.settlement? = some w
  /-- While nobody has the balance lock, an order is stored exactly if it was at first or the
  balance of its commit has been written. -/
  stored : s.lock = .free → ∀ order, s.desk.orders.get? order.orderId = some order ↔
    d.orders.get? order.orderId = some order ∨ ∃ balance, .settled ⟨order, balance⟩ ∈ log
  /-- Whoever reads the balance of the owner after an order of a commit has been seen, reads what
  this commit has written, or what has been written to this balance later. -/
  seen : ∀ turn ∈ s.trace, ∀ order, turn.Shows order →
    d.orders.get? order.orderId ≠ some order →
    ∀ c read found, (s.step c).trace = s.trace ++ [read] →
      read.toExchange = ⟨.findBalance order.username.text, .ok found⟩ →
      ∃ balance earlier later, log = earlier ++ .settled ⟨order, balance⟩ :: later ∧
        balance.username = order.username ∧
        found = Posting.last? (.settled ⟨order, balance⟩ :: later) order.username ∧
        found.isSome = true

/-- **Nobody sees half a commit.** Let calls commit orders, read orders and read balances at the
same time, in whatever order they go on, and let commits be given up while they wait for a lock, or
not get the balance lock in time. Whenever nobody has the balance lock, a committed order and its
balance are both there or both not; and whoever has seen the order and then reads the balance of its
owner, reads what its commit has written or what has been written later.

**Proof sketch.** A balance is read only while no order waits for its money. Then all commits of the
trace have been posted, among them that of the order that has been seen, and what counts is the last
posting, which is not before it. -/
theorem allOrNothing_play (d : Desk) (hd : d.Keyed) (calls : List (Program α))
    (hcalls : ∀ p ∈ calls, p.Keeps (Service.only Request.KeepsOrders) (fun _ _ => True) ())
    (schedule : List Choice) :
    AllOrNothing d ((start d calls).play schedule) ((start d calls).postings schedule) := by
  have hlocked := locked_play d calls schedule
  have hbooked := booked_play d calls schedule
  have haccounted := accounted_play hd calls hcalls schedule
  generalize (start d calls).play schedule = s at hlocked hbooked haccounted ⊢
  generalize (start d calls).postings schedule = log at hbooked ⊢
  have hposted (hwhole : s.Whole) (w : Settlement) : w ∈ s.settlements ↔ .settled w ∈ log := by
    rw [hbooked.whole hwhole, List.mem_filterMap]
    simp only [Posting.settlement?_eq_some_iff, exists_eq_right]
  refine ⟨hbooked.balances, fun w hw => List.mem_filterMap.1 (hbooked.mem_settlements hw),
    fun hfree order => ?_, ?_⟩
  · have hwhole : s.Whole := by simp [Whole, hfree]
    simp only [← hposted hwhole, ← haccounted.stored order, settled_of_whole hwhole]
  · intro turn hturn order hshows hnew c read found htrace hread
    obtain ⟨hwhole, rfl⟩ := found_of_read hlocked htrace hread
    have hstored := haccounted.seen turn hturn order hshows
    obtain hfirst | ⟨balance, hw⟩ := (haccounted.stored order).1 hstored
    · exact absurd hfirst hnew
    have howner : balance.username = order.username := haccounted.owner _ hw
    obtain ⟨earlier, later, rfl⟩ := List.append_of_mem ((hposted hwhole _).1 hw)
    obtain ⟨last, hlast⟩ := Posting.exists_last?_cons (.settled ⟨order, balance⟩) later howner
    refine ⟨balance, earlier, later, rfl, howner, ?_, ?_⟩
    · rw [hbooked.balances, Posting.last?_append, hlast]
      rfl
    · rw [hbooked.balances, Posting.last?_append, hlast]
      rfl

/-- On the small desk an order to buy is given up before it is stored, and an order to sell is seen
while its money is missing. Its owner, who then asks for the balance, waits. -/
theorem allOrNothing_of_visible_order :
    let form (orderType : OrderType) : OrderForm :=
      { username := "alice", orderType, assetId := "btc", quantity := 1, orderPrice := none,
        expiresAt := none }
    let place (orderType : OrderType) := (Call.place (form orderType)).program 50
    let observe := ((Call.order "alice" "ord_20231114_221320_00000000_alice").program 50).andThen
      fun reply => .ask (.findBalance "alice") fun _ => .done reply
    let go (call : Nat) : Choice := .turn call (.small 0)
    let half := .replicate 8 (go 0) ++ .abandon :: .replicate 9 (go 1) ++ .replicate 3 (go 2)
    let start := start Desk.small [place .marketBuy, place .marketSell, observe]
    let money (s : Traffic Reply) := (s.desk.balances.get? ⟨"alice"⟩).map Balance.current
    ((start.play half).desk.orders.size = 1 ∧ money (start.play half) = some 1000) ∧
      money (start.play (half ++ [go 1])) = some 1600.00 ∧
      AllOrNothing Desk.small (start.play (half ++ [go 1])) (start.postings (half ++ [go 1])) := by
  intro form place observe go half start money
  have hplace (orderType : OrderType) :
      Service.AsksOnly Request.KeepsOrders ((Call.place (form orderType)).service 50) :=
    Call.asksOnly_keepsOrders 50 _ fun _ _ h => h
  have hobserve : observe.Keeps (Service.only Request.KeepsOrders) (fun _ _ => True) () := by
    have hlook := Call.asksOnly_keepsOrders 50
      (.order "alice" "ord_20231114_221320_00000000_alice") fun _ _ h => h
    refine (Program.keeps_andThen _ _ _).2 (Program.Keeps.mono hlook ?_)
    exact fun _ _ _ => ⟨trivial, fun _ _ _ => trivial⟩
  refine ⟨by decide +kernel, by decide +kernel, allOrNothing_play _ Desk.keyed_small _ ?_ _⟩
  simp only [List.forall_mem_cons]
  exact ⟨hplace _, hplace _, hobserve, by simp⟩

end Traffic

end OrderDesk
