import OrderDesk.Order.View
import OrderDesk.Service.Check

/-!
# Reading orders

One order of which the user may know, or the newest orders of a user.
-/

set_option autoImplicit false

namespace OrderDesk.Service

/-- One order. -/
def order (username orderId : String) : Service OrderView := do
  return (← ownedOrder username orderId).view

/-- The newest orders of a user, up to a limit that is given or the default one. -/
def orders (defaultLimit : Nat) (query : ListingQuery) : Service OrderListing := do
  let user ← checkListing query.username query.limit
  let limit := query.limit.elim defaultLimit Int.toNat
  let found ← ofAnswer Cause.order (← ask (.ordersOf user.username query.status (some limit)))
  log (.listed user.username query.status limit found.length)
  return .ofOrders found limit

end OrderDesk.Service
