import OrderDesk.Order.View
import OrderDesk.Service.Check

/-!
# Changing the status of an order

A user may cancel an order; every other change belongs to the system. A change is stored only if the
order is still in the status in which it was read.
-/

set_option autoImplicit false

namespace OrderDesk

/-- Who asks for a change. -/
inductive Actor where
  | user (username : String)
  | system
deriving DecidableEq

/-- The actor is the system. -/
def Actor.isSystem : Actor → Bool
  | user _ => false
  | system => true

namespace Service

/-- Cancel an order on behalf of a user. -/
def cancel (username orderId : String) : Service OrderView := do
  let order ← checkCancellation username orderId
  let now ← clock
  let changed ← ofAnswer (fun e => Cause.order (.transition e)) (order.cancelByUser now)
  ofAnswer Cause.order (← ask (.saveIfStatus changed order.status))
  log (.cancelled changed.orderId username order.status)
  return changed.view

/-- The order that an actor asks about: the system need not be permitted. -/
def orderFor (actor : Actor) (orderId : String) : Service Order :=
  match actor with
  | .user username => ownedOrder username orderId
  | .system => do
    let orderId ← field (Field.orderId orderId)
    requireOrder orderId

/-- The order moved to `target` by an actor. A user asks for nothing but a cancellation: other moves
of the table are the system's. -/
def moved (actor : Actor) (order : Order) (target : Status) (now : Instant) :
    Except TransitionError Order :=
  if !actor.isSystem ∧ target ≠ .cancelled ∧ order.status.canMoveTo target then
    .error (.systemOnly target)
  else order.moveTo target (!actor.isSystem) actor.isSystem now

/-- Move an order to another status. A refused move is reported. -/
def updateStatus (orderId : String) (target : Status) (actor : Actor) : Service OrderView := do
  let order ← orderFor actor orderId
  let now ← clock
  match moved actor order target now with
  | .error e =>
    log (.changeRejected orderId order.status target e)
    refuse (.ofTransition e)
  | .ok changed =>
    ofAnswer Cause.order (← ask (.saveIfStatus changed order.status))
    log (.statusUpdated orderId order.status target actor.isSystem)
    return changed.view

end Service

end OrderDesk
