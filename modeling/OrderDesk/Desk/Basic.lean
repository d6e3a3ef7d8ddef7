import OrderDesk.Desk.Table
import OrderDesk.Service.Program

/-!
# The desk

The desk keeps users, assets, balances and orders. It answers the requests of the service: it looks
entries up, replaces an order only in the status that is expected, and commits an order together
with its money under one lock.

## Main definitions

* `OrderDesk.Desk`: the four stores.
* `OrderDesk.Desk.insertOrder`, `OrderDesk.Desk.replaceIf`, `OrderDesk.Desk.settle`: the changes.
* `OrderDesk.Desk.newestFirst`, `OrderDesk.Desk.ordersOf`: listings.
* `OrderDesk.Moment`: the circumstances under which a request is answered.
* `OrderDesk.Desk.answer`: the desk as the surroundings of the service.
-/

set_option autoImplicit false

namespace OrderDesk

/-- The stores of users, assets, balances and orders. -/
structure Desk where
  users : Table Username User
  assets : Table AssetId Asset
  balances : Table Username Balance
  orders : Table OrderId Order

namespace Desk

/-- The desk without any entry. -/
def empty : Desk :=
  { users := .empty, assets := .empty, balances := .empty, orders := .empty }

instance : Inhabited Desk :=
  ⟨empty⟩

/-! ## Single entries -/

/-- The desk with a user added or replaced. -/
def putUser (d : Desk) (user : User) : Desk :=
  { d with users := d.users.put user.username user }

/-- The desk with an asset added or replaced. -/
def putAsset (d : Desk) (asset : Asset) : Desk :=
  { d with assets := d.assets.put asset.assetId asset }

/-- The desk with a balance added or replaced. -/
def putBalance (d : Desk) (balance : Balance) : Desk :=
  { d with balances := d.balances.put balance.username balance }

/-- The desk with an order added or replaced. -/
def putOrder (d : Desk) (order : Order) : Desk :=
  { d with orders := d.orders.put order.orderId order }

/-- The desk with a new order; an order ID that is taken is refused. -/
def insertOrder (d : Desk) (order : Order) : Except OrderError Desk :=
  if d.orders.contains order.orderId then .error (.duplicateOrderId order.orderId.text)
  else .ok (d.putOrder order)

/-- The desk with an order replaced, provided that the stored one is in the expected status. -/
def replaceIf (d : Desk) (order : Order) (expected : Status) : Except OrderError Desk :=
  match d.orders.get? order.orderId with
  | none => .error (.notFound order.orderId.text)
  | some stored =>
    if stored.status ≠ expected then
      .error (.statusConflict order.orderId.text expected stored.status)
    else .ok (d.putOrder order)

/-! ## Listings -/

/-- A later order comes first; of two orders of one time the one with the larger order ID. -/
def comesBefore (a b : Order) : Bool :=
  b.createdAt < a.createdAt || (a.createdAt == b.createdAt && b.orderId.text ≤ a.orderId.text)

/-- Orders, the newest first. -/
def newestFirst (orders : List Order) : List Order :=
  orders.mergeSort comesBefore

/-- The newest orders of a user, all of them or those in one status, up to a limit. -/
def ordersOf (d : Desk) (owner : Username) (status : Option Status) (limit : Option Nat) :
    List Order :=
  let found := newestFirst (d.orders.values.filter fun o =>
    o.username == owner && status.all (o.status == ·))
  match limit with
  | some n => found.take n
  | none => found

/-- All orders in one status, the newest first. -/
def ordersIn (d : Desk) (status : Status) : List Order :=
  newestFirst (d.orders.values.filter (·.status == status))

/-! ## Commits -/

/-- The balance of a user, a fresh one for a user who never had one. -/
def balanceOf (d : Desk) (username : Username) (now : Instant) : Balance :=
  (d.balances.get? username).getD (.empty username now)

/-- A balance that refuses a change fails the commit. -/
def ofBalance (result : Except (Failure DomainError) Balance) :
    Except (Failure TransactionError) Balance :=
  match result with
  | .ok balance => .ok balance
  | .error (.error e) => .error (.error (.databaseOperation e.message))
  | .error .sumOverflow => .error .sumOverflow

/-- The balance after an order: what it costs is debited if it is there, what it brings in is
credited. -/
def charge (side : Side) (balance : Balance) (amount : Decimal) (now : Instant) :
    Except (Failure TransactionError) Balance :=
  match side with
  | .buy =>
    if !balance.covers amount then .error (.error (.insufficientBalance amount balance.current))
    else ofBalance (balance.debit amount now)
  | .sell => ofBalance (balance.credit amount now)

/-- A new order stored as a part of a commit. -/
def persist (d : Desk) (order : Order) : Except (Failure TransactionError) Desk :=
  match d.insertOrder order with
  | .ok d => .ok d
  | .error (.duplicateOrderId id) =>
    .error (.error (.databaseOperation ("order " ++ id ++ " already exists")))
  | .error e => .error (.error (.databaseOperation e.message))

/-- The desk after an order has been stored and its money has moved. The balance is computed first,
then the order is stored, then the balance. -/
def settle (d : Desk) (side : Side) (order : Order) (now : Instant) :
    Except (Failure TransactionError) (Settlement × Desk) := do
  let balance ← charge side (d.balanceOf order.username now) order.totalAmount now
  let stored ← d.persist order
  return (⟨order, balance⟩, stored.putBalance balance)

end Desk

/-! ## Answering requests -/

/-- The circumstances under which a request is answered. -/
structure Moment where
  /-- The reading of the clock. -/
  now : Instant
  /-- The next random identifier. -/
  token : Uuid
  /-- Somebody else keeps the balance lock, and waiting for it ends after this many milliseconds. -/
  stalled : Option Nat

/-- The balance lock is not had in time. -/
def Moment.lockTimeout (milliseconds : Nat) : TransactionError :=
  .lockAcquisition ("balance lock not acquired within " ++ toString milliseconds ++ "ms")

namespace Desk

/-- The balance of a user, read under the lock. -/
def readBalance (d : Desk) (m : Moment) (username : Username) :
    Except LookupError (Option Balance) :=
  match m.stalled with
  | some ms => .error ⟨(Moment.lockTimeout ms).message⟩
  | none => .ok (d.balances.get? username)

/-- The balance of a user set to an amount, under the lock. -/
def setBalance (d : Desk) (m : Moment) (username : Username) (amount : Decimal) :
    Except TransactionError Desk :=
  match m.stalled with
  | some ms => .error (Moment.lockTimeout ms)
  | none => .ok (d.putBalance { username, current := amount, updatedAt := m.now })

/-- A commit under the lock. A commit that fails leaves the desk as it is. -/
def commit (d : Desk) (m : Moment) (side : Side) (order : Order) :
    Except (Failure TransactionError) Settlement × Desk :=
  match m.stalled with
  | some ms => (.error (.error (Moment.lockTimeout ms)), d)
  | none =>
    match d.settle side order m.now with
    | .ok (settlement, settled) => (.ok settlement, settled)
    | .error e => (.error e, d)

/-- A replacement of an order. One that fails leaves the desk as it is. -/
def saveIfStatus (d : Desk) (order : Order) (expected : Status) : Except OrderError Unit × Desk :=
  match d.replaceIf order expected with
  | .ok replaced => (.ok (), replaced)
  | .error e => (.error e, d)

/-- The desk answers the requests of the service at a moment. -/
def answer (m : Moment) : Handler Desk
  | .clock, d => (m.now, d)
  | .token, d => (m.token, d)
  | .findUser username, d => (.ok (d.users.get? ⟨username⟩), d)
  | .findAsset assetId, d => (.ok (d.assets.get? assetId), d)
  | .findBalance username, d => (d.readBalance m ⟨username⟩, d)
  | .findOrder orderId, d => (.ok (d.orders.get? orderId), d)
  | .ordersOf owner status limit, d => (.ok (d.ordersOf owner status limit), d)
  | .saveIfStatus order expected, d => d.saveIfStatus order expected
  | .commit side order, d => d.commit m side order
  | .log _, d => ((), d)

end Desk

end OrderDesk
