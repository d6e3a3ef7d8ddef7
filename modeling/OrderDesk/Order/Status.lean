import OrderDesk.Text.Uppercase

/-!
# Order statuses

The life of an order, and who may move it from one status to another.

## Main definitions

* `OrderDesk.Status`: the eight statuses.
* `OrderDesk.Status.targets`: the table of moves.
* `OrderDesk.Status.authorize`: whether a move is in the table and open to who asks for it.
* `OrderDesk.TransitionError`: why a move is refused.
-/

set_option autoImplicit false

namespace OrderDesk

/-- The status of an order. -/
inductive Status where
  | pending
  | confirmed
  | queued
  | processing
  | completed
  | cancelled
  | failed
  | expired
deriving DecidableEq, Inhabited

namespace Status

/-- All statuses, in the order of an order's life. -/
def all : List Status :=
  [pending, confirmed, queued, processing, completed, cancelled, failed, expired]

/-- The wire name. -/
def name : Status → String
  | pending => "PENDING"
  | confirmed => "CONFIRMED"
  | queued => "QUEUED"
  | processing => "PROCESSING"
  | completed => "COMPLETED"
  | cancelled => "CANCELLED"
  | failed => "FAILED"
  | expired => "EXPIRED"

/-- The capitalized name that log events show. -/
def title : Status → String
  | pending => "Pending"
  | confirmed => "Confirmed"
  | queued => "Queued"
  | processing => "Processing"
  | completed => "Completed"
  | cancelled => "Cancelled"
  | failed => "Failed"
  | expired => "Expired"

/-- The status of a wire name. -/
def ofName? (s : String) : Option Status :=
  all.find? (·.name == s)

/-! ## The table of moves -/

/-- Nothing happens to an order in a terminal status any more. -/
def isTerminal : Status → Bool
  | completed | cancelled | failed | expired => true
  | pending | confirmed | queued | processing => false

/-- An order that is not in a terminal status. -/
def isActive (s : Status) : Bool :=
  !s.isTerminal

/-- The statuses that an order can move to. -/
def targets : Status → List Status
  | pending => [confirmed, cancelled, failed]
  | confirmed => [processing, cancelled, failed]
  | queued => [processing, expired, cancelled]
  | processing => [completed, failed]
  | completed | cancelled | failed | expired => []

/-- The move is in the table. -/
def canMoveTo (s target : Status) : Bool :=
  s.targets.contains target

/-- The targets in the order of `Status.all`. -/
def successors (s : Status) : List Status :=
  all.filter s.canMoveTo

/-- A user may still cancel the order. A queued order can be cancelled too, but not by a user. -/
def canUserCancel (s : Status) : Bool :=
  (s == pending || s == confirmed) && s.canMoveTo cancelled

end Status

/-! ## Authority -/

/-- Why a move is refused. -/
inductive TransitionError where
  /-- The move is not in the table. -/
  | invalidTransition (current target : Status)
  /-- Only the system moves an order to this status. -/
  | systemOnly (target : Status)
  /-- The order is past its owner's control. -/
  | cancellationNotAllowed (current : Status)
deriving DecidableEq

namespace TransitionError

/-- The refusal is about who asks, not about the table. -/
def isPermission : TransitionError → Bool
  | invalidTransition .. => false
  | systemOnly _ | cancellationNotAllowed _ => true

/-- The wording of a refusal. -/
def message : TransitionError → String
  | invalidTransition current target =>
    "Invalid transition from " ++ current.name ++ " to " ++ target.name
  | systemOnly target => "Only system can mark orders as " ++ Text.asciiLowercase target.name
  | cancellationNotAllowed current =>
    "Order cannot be cancelled by user in " ++ current.name ++ " status"

end TransitionError

/-- Authorizes a move. The table comes first; then failing and expiring are left to the system, and
a named user cancels only what users may cancel. -/
def Status.authorize (current target : Status) (byUser bySystem : Bool) :
    Except TransitionError Unit :=
  if !current.canMoveTo target then .error (.invalidTransition current target)
  else if target = .failed ∧ !bySystem then .error (.systemOnly target)
  else if target = .expired ∧ !bySystem then .error (.systemOnly target)
  else if target = .cancelled ∧ byUser ∧ !current.canUserCancel then
    .error (.cancellationNotAllowed current)
  else .ok ()

/-- A wire name is read back as its status. -/
theorem Status.ofName?_name (s : Status) : Status.ofName? s.name = some s := by
  cases s <;> decide

/-- An order in a terminal status has no moves, and only such an order. -/
theorem Status.isTerminal_iff_targets_eq_nil (s : Status) :
    s.isTerminal = true ↔ s.targets = [] := by
  cases s <;> simp [Status.isTerminal, Status.targets]

end OrderDesk
