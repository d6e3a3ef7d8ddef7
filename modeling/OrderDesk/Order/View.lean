import OrderDesk.Order.Basic

/-!
# Orders as clients see them

The answer about one order holds its stored fields and its side; the answer about several orders
holds them newest first, with their number and the limit that was applied.
-/

set_option autoImplicit false

namespace OrderDesk

/-- An order as clients see it. -/
structure OrderView extends OrderRecord where
  side : Side
deriving DecidableEq

/-- What clients see of an order. -/
def Order.view (o : Order) : OrderView :=
  { o.toOrderRecord with side := o.side }

/-- Several orders of a user. -/
structure OrderListing where
  orders : List OrderView
  /-- The number of orders. -/
  count : Nat
  /-- The largest number of orders that would have been given. -/
  limit : Nat
deriving DecidableEq

/-- The listing of some orders. -/
def OrderListing.ofOrders (orders : List Order) (limit : Nat) : OrderListing :=
  { orders := orders.map Order.view, count := orders.length, limit }

/-- What a client asks of a listing. -/
structure ListingQuery where
  username : String
  /-- Only orders in this status. -/
  status : Option Status
  /-- No more orders than this. -/
  limit : Option Int
deriving DecidableEq

end OrderDesk
