import OrderDesk.Proofs.Fields

/-!
# Orders that are changed in place and restored

What is stored of an order is a record, and a record is only an order again if its price is there
for a limit order and for no other. The two ways to an order ask this in ways of their own: the
rules ask it of a new order, and restoring asks it of a record. From then on the record is changed
in place, one field after the other, by calls that may be refused. However many calls there are, it
stays the record of an order, and the order that is restored from it is changed like the record.

## Main definitions

* `OrderDesk.Order.Change` — a call that changes an order.
* `OrderDesk.OrderRecord.InPlace`, `OrderDesk.OrderRecord.moveTo` — changes of a record in place.
* `OrderDesk.OrderRecord.after` — a record after some calls.
* `OrderDesk.Order.IsMade` — an order that has been placed or restored.

## Main results

* `OrderDesk.Order.Change.apply_eq` — what a call does to a record.
* `OrderDesk.OrderRecord.sameTerms_after` — what no calls change.
* `OrderDesk.OrderRecord.updatedAt_after` — the last update under a clock that is never set back.
* `OrderDesk.Order.restore_after` — orders are restored after any calls.
-/

set_option autoImplicit false

namespace OrderDesk

/-! ## Calls -/

/-- A **call** that changes an order. -/
inductive Order.Change where
  /-- The order is moved to a status, on behalf of a user if one is named. -/
  | move (target : Status) (username : Option String) (bySystem : Bool)
  /-- The order is cancelled on behalf of a user. -/
  | cancel (username : String)
deriving DecidableEq

namespace OrderRecord

/-- Changes of a record **in place**: what has been written stays written, also where the change
fails in the end. -/
abbrev InPlace (α : Type) : Type :=
  ExceptT TransitionError (StateM OrderRecord) α

/-- A move answered by the status that the record has. -/
def authorize (target : Status) (byUser bySystem : Bool) : InPlace Unit :=
  ExceptT.mk do return (← get).status.authorize target byUser bySystem

/-- A record moved in place: the move is authorized, then the status is written, then the time. -/
def moveTo (target : Status) (byUser bySystem : Bool) (now : Instant) : InPlace Unit := do
  authorize target byUser bySystem
  modify fun record => { record with status := target }
  modify fun record => { record with updatedAt := now }

/-- One change after another. -/
theorem InPlace.run_bind {α β : Type} (first : InPlace α) (next : α → InPlace β)
    (record : OrderRecord) :
    (first >>= next).run.run record = match first.run.run record with
      | (.ok a, left) => (next a).run.run left
      | (.error e, left) => (.error e, left) := by
  simp only [bind, ExceptT.bind, ExceptT.mk, StateT.bind, ExceptT.bindCont, ExceptT.run, StateT.run]
  cases first record with
  | mk answer left => cases answer <;> rfl

/-- A move writes both fields or none. -/
theorem run_moveTo (target : Status) (byUser bySystem : Bool) (now : Instant)
    (record : OrderRecord) :
    (moveTo target byUser bySystem now).run.run record =
      match record.status.authorize target byUser bySystem with
      | .ok _ => (.ok (), { record with status := target, updatedAt := now })
      | .error e => (.error e, record) := by
  have hanswer : (authorize target byUser bySystem).run.run record =
      (record.status.authorize target byUser bySystem, record) := rfl
  rw [moveTo, InPlace.run_bind, hanswer]
  cases record.status.authorize target byUser bySystem <;> rfl

end OrderRecord

namespace Order.Change

/-- A call on an order, which gives another order. -/
def onOrder (now : Instant) (o : Order) : Change → Except TransitionError Order
  | move target username bySystem => o.moveTo target username.isSome bySystem now
  | cancel _ => o.cancelByUser now

/-- A call on a record, which is changed in place. -/
def inPlace (now : Instant) : Change → OrderRecord.InPlace Unit
  | move target username bySystem => OrderRecord.moveTo target username.isSome bySystem now
  | cancel _ => OrderRecord.moveTo .cancelled true false now

/-- A call answered, and the record that it leaves behind. -/
def apply (change : Change) (now : Instant) (record : OrderRecord) :
    Except TransitionError Unit × OrderRecord :=
  (change.inPlace now).run.run record

/-- The status that a call asks for. -/
def target : Change → Status
  | move target _ _ => target
  | cancel _ => .cancelled

/-- Whether the move that a call asks for is authorized. -/
def authorize (current : Status) : Change → Except TransitionError Unit
  | move target username bySystem => current.authorize target username.isSome bySystem
  | cancel _ => current.authorize .cancelled true false

end Order.Change

/-- A record **after** calls, each at a time of its own. -/
def OrderRecord.after (record : OrderRecord) (changes : List (Order.Change × Instant)) :
    OrderRecord :=
  changes.foldl (fun record (change, now) => (change.apply now record).2) record

/-! ## One call -/

namespace Order.Change

variable {change : Change} {now : Instant} {record : OrderRecord}

/-- What a call does to a record: a call that is refused has written nothing. -/
theorem apply_eq (change : Change) (now : Instant) (record : OrderRecord) :
    change.apply now record = match change.authorize record.status with
      | .ok _ => (.ok (), { record with status := change.target, updatedAt := now })
      | .error e => (.error e, record) := by
  cases change with
  | move target username bySystem => exact OrderRecord.run_moveTo target _ bySystem now record
  | cancel username => exact OrderRecord.run_moveTo .cancelled true false now record

/-- A call does to the record of an order what it does to the order. -/
theorem apply_toOrderRecord (change : Change) (now : Instant) (o : Order) :
    change.apply now o.toOrderRecord = match change.onOrder now o with
      | .ok changed => (.ok (), changed.toOrderRecord)
      | .error e => (.error e, o.toOrderRecord) := by
  have hmove (target : Status) (byUser bySystem : Bool) :
      o.moveTo target byUser bySystem now =
        match o.status.authorize target byUser bySystem with
        | .ok _ => .ok (o.withStatus target now)
        | .error e => .error e := rfl
  rw [apply_eq]
  cases change with
  | move target username bySystem =>
    rw [onOrder, hmove, authorize]
    cases o.status.authorize target username.isSome bySystem <;> rfl
  | cancel username =>
    rw [onOrder, cancelByUser, hmove, authorize]
    cases o.status.authorize .cancelled true false <;> rfl

/-- A call that is refused leaves the record as it is. -/
theorem eq_of_apply_error {e : TransitionError} {left : OrderRecord}
    (h : change.apply now record = (.error e, left)) : left = record := by
  rw [apply_eq] at h
  cases hauthorize : change.authorize record.status with
  | ok u => rw [hauthorize] at h; cases h
  | error e' =>
    rw [hauthorize] at h
    exact (congrArg Prod.snd h).symm

end Order.Change

/-! ## Many calls -/

namespace OrderRecord

/-- Two records have the **same terms** if one is the other with another status and another last
update. -/
def SameTerms (a b : OrderRecord) : Prop :=
  b = { a with status := b.status, updatedAt := b.updatedAt }

/-- A call leaves the terms as they are. -/
theorem sameTerms_apply (change : Order.Change) (now : Instant) (record : OrderRecord) :
    record.SameTerms (change.apply now record).2 := by
  rw [Order.Change.apply_eq]
  cases change.authorize record.status <;> rfl

/-- The terms stay the same from one record to a later one. -/
theorem SameTerms.trans {a b c : OrderRecord} (hab : a.SameTerms b) (hbc : b.SameTerms c) :
    a.SameTerms c := by
  unfold SameTerms at *
  rw [hbc, hab]

/-- **No calls change the terms** of a record. -/
theorem sameTerms_after (record : OrderRecord) (changes : List (Order.Change × Instant)) :
    record.SameTerms (record.after changes) := by
  induction changes generalizing record with
  | nil => rfl
  | cons step changes ih =>
    obtain ⟨change, now⟩ := step
    exact (sameTerms_apply change now record).trans (ih _)

/-- The time of the last update is the one before the call, or the time of the call. -/
theorem updatedAt_apply (change : Order.Change) (now : Instant) (record : OrderRecord) :
    (change.apply now record).2.updatedAt = record.updatedAt ∨
      (change.apply now record).2.updatedAt = now := by
  rw [Order.Change.apply_eq]
  cases change.authorize record.status with
  | ok u => exact .inr rfl
  | error e => exact .inl rfl

end OrderRecord

/-- An instant is not after itself. -/
theorem Instant.le_refl (t : Instant) : t ≤ t :=
  .inr ⟨rfl, Nat.le_refl _⟩

/-- An instant that is not after another one is not after what the other one is not after. -/
theorem Instant.le_trans {a b c : Instant} (hab : a ≤ b) (hbc : b ≤ c) : a ≤ c := by
  simp only [le_def] at *
  omega

/-- **Under a clock that is never set back** the time of the last update does not go back, and it
is not after any reading that is still to come.

**Proof sketch.** Induction on the calls. After a call the last update is the one before it or the
reading of the clock at the call, and neither is after what the clock shows later. -/
theorem OrderRecord.updatedAt_after {record : OrderRecord}
    {changes : List (Order.Change × Instant)} {later : List Instant}
    (h : (record.updatedAt :: (changes.map Prod.snd ++ later)).Pairwise (· ≤ ·)) :
    record.updatedAt ≤ (record.after changes).updatedAt ∧
      ((record.after changes).updatedAt :: later).Pairwise (· ≤ ·) := by
  induction changes generalizing record with
  | nil => exact ⟨Instant.le_refl _, h⟩
  | cons step changes ih =>
    obtain ⟨change, now⟩ := step
    obtain ⟨hfirst, hrest⟩ := List.pairwise_cons.1 h
    have hnow : record.updatedAt ≤ now := hfirst now List.mem_cons_self
    rcases updatedAt_apply change now record with hsame | hmoved
    · have hlater : (record.updatedAt :: (changes.map Prod.snd ++ later)).Pairwise (· ≤ ·) :=
        List.pairwise_cons.2
          ⟨fun t ht => hfirst t (List.mem_cons_of_mem _ ht), (List.pairwise_cons.1 hrest).2⟩
      rw [← hsame] at hlater
      obtain ⟨hle, hpairwise⟩ := ih hlater
      exact ⟨hsame ▸ hle, hpairwise⟩
    · have hlater : (now :: (changes.map Prod.snd ++ later)).Pairwise (· ≤ ·) := hrest
      rw [← hmoved] at hlater
      obtain ⟨hle, hpairwise⟩ := ih hlater
      rw [hmoved] at hle
      exact ⟨Instant.le_trans hnow hle, hpairwise⟩

/-! ## Orders -/

namespace Order

/-- An order that has been **made** in one of the two ways: it has been placed, or restored. -/
inductive IsMade : Order → Prop
  | placed {request : OrderRequest} {price : Decimal} {now idTime : Instant} {token : Uuid}
      {o : Order} (h : place request price now idTime token = .ok o) : IsMade o
  | restored {record : OrderRecord} {o : Order} (h : restore record = .ok o) : IsMade o

/-- A record is restored exactly if its price is there for a limit order and for no other, and then
as it is. -/
theorem restore_eq_ok_iff {record : OrderRecord} {o : Order} :
    restore record = .ok o ↔
      record.orderPrice.isSome = record.orderType.isLimit ∧ o.toOrderRecord = record := by
  unfold restore
  split
  · next h =>
    constructor
    · intro ho
      obtain rfl := Except.ok.inj ho
      exact ⟨h, rfl⟩
    · rintro ⟨-, rfl⟩
      rfl
  · next h =>
    constructor
    · intro ho
      cases ho
    · rintro ⟨hprice, -⟩
      exact absurd hprice h

/-- An order that has been made has a price if it is a limit order, and only then: the rules ask it
of a new order, and restoring asks it of a record. -/
theorem IsMade.isSome_orderPrice {o : Order} (h : o.IsMade) :
    o.orderPrice.isSome = o.orderType.isLimit := by
  cases h with
  | placed h =>
    have hnew := isNew_of_place h
    rw [hnew.orderPrice, hnew.orderType]
    exact (Rules.violations_eq_nil_iff.1 (violations_of_place h)).2.2.1
  | restored h =>
    obtain ⟨hprice, rfl⟩ := restore_eq_ok_iff.1 h
    exact hprice

/-- **Orders are restored after any calls.** An order is made, and its record is changed in place by
any calls, of which some may be refused. Then the record is that of an order, which is restored as
it is, with a price if it is a limit order and only then. A further call does to the record what it
does to that order, and if it is refused it leaves the record as it is. Under a clock that is never
set back and that is not before the first last update, the time of the last update does not go
back.

**Proof sketch.** A call writes nothing but the status and the time of the last update, and these
only after it has been authorized. So the type and the price stay what they were, and they went
together at the start. -/
theorem restore_after {start : Order} (hstart : start.IsMade) (changes : List (Change × Instant)) :
    let record := start.toOrderRecord.after changes
    (∃ order, restore record = .ok order ∧ order.toOrderRecord = record ∧
      ∀ (change : Change) (now : Instant), change.apply now record =
        match change.onOrder now order with
        | .ok changed => (.ok (), changed.toOrderRecord)
        | .error e => (.error e, record)) ∧
    record.orderPrice.isSome = record.orderType.isLimit ∧
    (∀ (change : Change) (now : Instant) (e : TransitionError) (left : OrderRecord),
      change.apply now record = (.error e, left) → left = record) ∧
    ∀ more, (start.updatedAt :: (changes ++ more).map Prod.snd).Pairwise (· ≤ ·) →
      record.updatedAt ≤ (record.after more).updatedAt := by
  intro record
  have hterms : start.toOrderRecord.SameTerms record := OrderRecord.sameTerms_after _ changes
  have hprice : record.orderPrice.isSome = record.orderType.isLimit := by
    rw [hterms]
    exact hstart.isSome_orderPrice
  have hrestore : restore record = .ok ⟨record, hprice⟩ := restore_eq_ok_iff.2 ⟨hprice, rfl⟩
  refine ⟨⟨_, hrestore, rfl, fun change now => change.apply_toOrderRecord now ⟨record, hprice⟩⟩,
    hprice, fun _ _ _ _ => Change.eq_of_apply_error, fun more hclock => ?_⟩
  rw [List.map_append] at hclock
  have hlater := (OrderRecord.updatedAt_after hclock).2
  rw [← List.append_nil (more.map Prod.snd)] at hlater
  exact (OrderRecord.updatedAt_after hlater).1

/-- A queued limit order is restored. Its owner may not cancel it any more, and the system moves it
on; then it cannot go back. -/
theorem restore_after_of_refusal :
    let start : Order :=
      { Order.small with
        orderType := .limitBuy, orderPrice := some 600.00, status := .queued
        isSome_orderPrice := rfl }
    let changes : List (Change × Instant) :=
      [(.cancel "alice", .ofSeconds 1700000001),
        (.move .processing none true, .ofSeconds 1700000005)]
    let record := start.toOrderRecord.after changes
    start.IsMade ∧ record.status = .processing ∧ record.updatedAt = .ofSeconds 1700000005 ∧
      (∃ order, restore record = .ok order ∧ order.toOrderRecord = record) ∧
      start.updatedAt ≤ record.updatedAt := by
  intro start changes record
  have hstart : start.IsMade := .restored (restore_toOrderRecord start)
  obtain ⟨⟨order, hrestore, hrecord, -⟩, -⟩ := restore_after hstart changes
  have hclock := (restore_after hstart []).2.2.2 changes (by decide)
  exact ⟨hstart, by decide, by decide, ⟨order, hrestore, hrecord⟩, hclock⟩

end Order

end OrderDesk
