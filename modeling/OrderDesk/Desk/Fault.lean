import OrderDesk.Desk.Basic

/-!
# A desk with faults

Faults that are set on purpose, to see how the service behaves when its surroundings fail: stores
that cannot be reached, a balance that is out of date, commits that fail, and a rival who changes an
order just before it is replaced.

## Main definitions

* `OrderDesk.Faults`: which faults are set.
* `OrderDesk.FaultyDesk`: a desk with faults and the number of lookups that were answered.
* `OrderDesk.FaultyDesk.answer`: such a desk as the surroundings of the service.
-/

set_option autoImplicit false

namespace OrderDesk

/-- Lookups of one kind fail once some of them have been answered. -/
structure LookupFault where
  detail : String
  /-- This many lookups are still answered. -/
  answered : Nat

/-- The error of a store of orders that fails. -/
inductive OrderFault where
  | notFound
  | duplicate
  | persistence (detail : String)

/-- The error about what was asked for. -/
def OrderFault.error (fault : OrderFault) (asked : String) : OrderError :=
  match fault with
  | notFound => .notFound asked
  | duplicate => .duplicateOrderId asked
  | persistence detail => .persistence detail

/-- The faults that are set. -/
structure Faults where
  users : Option LookupFault
  assets : Option LookupFault
  balances : Option LookupFault
  /-- Every lookup of a balance gives this amount. -/
  staleBalance : Option Decimal
  transactions : Option TransactionError
  orderRead : Option OrderFault
  orderWrite : Option OrderFault
  /-- A rival moves the order to this status just before it is replaced. -/
  race : Option Status

/-- No fault is set. -/
def Faults.none : Faults :=
  { users := .none, assets := .none, balances := .none, staleBalance := .none,
    transactions := .none, orderRead := .none, orderWrite := .none, race := .none }

/-- A desk with faults. -/
structure FaultyDesk where
  desk : Desk
  faults : Faults

namespace FaultyDesk

/-- A lookup under a fault: it is answered as long as the fault waits. -/
def lookup {α : Type} (fault : Option LookupFault) (answer : Except LookupError α) :
    Except LookupError α × Option LookupFault :=
  match fault with
  | none => (answer, none)
  | some ⟨detail, 0⟩ => (.error ⟨detail⟩, fault)
  | some ⟨detail, n + 1⟩ => (answer, some ⟨detail, n⟩)

/-- A balance looked up under a fault that shows an amount out of date. -/
def balance (f : FaultyDesk) (m : Moment) (username : Username) :
    Except LookupError (Option Balance) :=
  match f.faults.staleBalance with
  | some amount => .ok (some { username, current := amount, updatedAt := m.now })
  | none => f.desk.readBalance m username

/-- An answer of the store of orders under a fault. -/
def read {α : Type} (f : FaultyDesk) (asked : String) (found : α) : Except OrderError α :=
  match f.faults.orderRead with
  | some fault => .error (fault.error asked)
  | none => .ok found

/-- The desk after a rival has been faster, if one is set. -/
def afterRace (f : FaultyDesk) (order : Order) (now : Instant) : Desk :=
  match f.faults.race with
  | some status => f.desk.putOrder (order.withStatus status now)
  | none => f.desk

/-- An order stored whether or not it is there already, under faults. -/
def save (f : FaultyDesk) (order : Order) : Except OrderError Unit × FaultyDesk :=
  match f.faults.orderWrite with
  | some fault => (.error (fault.error order.orderId.text), f)
  | none => (.ok (), { f with desk := f.desk.putOrder order })

/-- A replacement of an order under faults. -/
def saveIfStatus (f : FaultyDesk) (m : Moment) (order : Order) (expected : Status) :
    Except OrderError Unit × FaultyDesk :=
  match f.faults.orderWrite with
  | some fault => (.error (fault.error order.orderId.text), f)
  | none =>
    let (answer, desk) := (f.afterRace order m.now).saveIfStatus order expected
    (answer, { f with desk })

/-- A commit under faults. -/
def commit (f : FaultyDesk) (m : Moment) (side : Side) (order : Order) :
    Except (Failure TransactionError) Settlement × FaultyDesk :=
  match f.faults.transactions with
  | some e => (.error (.error e), f)
  | none =>
    let (answer, desk) := f.desk.commit m side order
    (answer, { f with desk })

/-- The desk with faults answers the requests of the service at a moment. -/
def answer (m : Moment) : Handler FaultyDesk
  | .clock, f => (m.now, f)
  | .token, f => (m.token, f)
  | .findUser username, f =>
    let (answer, users) := lookup f.faults.users (.ok (f.desk.users.get? ⟨username⟩))
    (answer, { f with faults := { f.faults with users } })
  | .findAsset assetId, f =>
    let (answer, assets) := lookup f.faults.assets (.ok (f.desk.assets.get? assetId))
    (answer, { f with faults := { f.faults with assets } })
  | .findBalance username, f =>
    let (answer, balances) := lookup f.faults.balances (f.balance m ⟨username⟩)
    (answer, { f with faults := { f.faults with balances } })
  | .findOrder orderId, f => (f.read orderId.text (f.desk.orders.get? orderId), f)
  | .ordersOf owner status limit, f =>
    (f.read owner.text (f.desk.ordersOf owner status limit), f)
  | .saveIfStatus order expected, f => f.saveIfStatus m order expected
  | .commit side order, f => f.commit m side order
  | .log _, f => ((), f)

end FaultyDesk

end OrderDesk
