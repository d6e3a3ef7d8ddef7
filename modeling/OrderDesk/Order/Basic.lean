import OrderDesk.Order.Id
import OrderDesk.Order.Rules
import OrderDesk.Order.Status

/-!
# Orders

An order is placed in status `PENDING` when no rule is broken, and from then on only its status and
its last update change.

## Main definitions

* `OrderDesk.OrderRecord`: what is stored of an order.
* `OrderDesk.Order`: a record whose price is there exactly for a limit order.
* `OrderDesk.Order.restore`: the order of a stored record.
* `OrderDesk.Order.place`: a new order.
* `OrderDesk.Order.moveTo`: an authorized change of status.
-/

set_option autoImplicit false

namespace OrderDesk

/-! ## Errors -/

/-- A value that a type of this library refuses. -/
inductive DomainError where
  | invalidValue (field message : String)
  | invariantViolation (aggregate invariant state : String)
deriving DecidableEq

namespace DomainError

/-- What is wrong, without the place. -/
def bareMessage : DomainError → String
  | invalidValue _ message => message
  | invariantViolation _ invariant _ => invariant

/-- The wording of a refused value. -/
def message : DomainError → String
  | invalidValue field message => "Invalid value for '" ++ field ++ "': " ++ message
  | invariantViolation aggregate invariant state =>
    "Invariant violation in " ++ aggregate ++ ": " ++ invariant ++ " (state: " ++ state ++ ")"

end DomainError

/-- Why an order is not placed, changed, found or stored. -/
inductive OrderError where
  | transition (e : TransitionError)
  | ruleViolations (violations : List RuleViolation)
  | notFound (orderId : String)
  | duplicateOrderId (orderId : String)
  /-- The stored order is no longer in the status in which it was read. -/
  | statusConflict (orderId : String) (expected found : Status)
  /-- The storage failed. -/
  | persistence (message : String)
deriving DecidableEq

/-- The wording of an order error; several broken rules stand behind each other. -/
def OrderError.message : OrderError → String
  | transition e => e.message
  | ruleViolations violations => String.intercalate "; " (violations.map (·.message))
  | notFound orderId => "Order not found: " ++ orderId
  | duplicateOrderId orderId => "Duplicate order ID: " ++ orderId
  | statusConflict orderId expected found =>
    "Order " ++ orderId ++ " is no longer " ++ expected.name ++ " (now " ++ found.name ++ ")"
  | persistence message => "Order persistence failed: " ++ message

/-! ## Types -/

/-- What is stored of an order. -/
structure OrderRecord where
  orderId : OrderId
  /-- The owner. -/
  username : Username
  orderType : OrderType
  assetId : AssetId
  quantity : Decimal
  /-- The limit price. -/
  orderPrice : Option Decimal
  /-- The value of the order when it was placed. -/
  totalAmount : Decimal
  status : Status
  expiresAt : Option Instant
  createdAt : Instant
  updatedAt : Instant
deriving DecidableEq

/-- An order: its price is there exactly if it is a limit order. -/
structure Order extends OrderRecord where
  isSome_orderPrice : orderPrice.isSome = orderType.isLimit
deriving DecidableEq

/-- What is asked of a new order. The price by which it is valued is the limit price, or the market
price of the moment. -/
structure OrderRequest where
  username : Username
  orderType : OrderType
  assetId : AssetId
  quantity : Decimal
  orderPrice : Option Decimal
  expiresAt : Option Instant
deriving DecidableEq

namespace Order

/-- The side of an order. -/
def side (o : Order) : Side :=
  o.orderType.side

/-- The order belongs to this user; case matters. -/
def isOwnedBy (o : Order) (username : String) : Bool :=
  o.username.text == username

/-! ## Restoring and placing -/

/-- The words for a price that may be missing. -/
def priceText : Option Decimal → String
  | some price => "Some(" ++ price.text ++ ")"
  | none => "None"

/-- The order of a stored record. The rules are not asked again, since they depend on the time. -/
def restore (record : OrderRecord) : Except DomainError Order :=
  if h : record.orderPrice.isSome = record.orderType.isLimit then .ok ⟨record, h⟩
  else .error (.invariantViolation "Order" "order_price present iff LIMIT order"
    (record.orderId.text ++ " " ++ record.orderType.name ++ " has order_price " ++
      priceText record.orderPrice))

/-- A new order, valued by `price`. The rules are asked first, then the value must be in range; the
order ID is drawn last, with a clock reading of its own. -/
def place (request : OrderRequest) (price : Decimal) (now idTime : Instant) (token : Uuid) :
    Except OrderError Order :=
  let violations := Rules.violations request.orderType request.quantity request.orderPrice
    request.expiresAt now
  if hv : violations = [] then
    match Rules.notional request.quantity price with
    | .error e => .error (.ruleViolations [e])
    | .ok totalAmount => .ok {
        orderId := OrderId.standard idTime token (some request.username.text)
        username := request.username
        orderType := request.orderType
        assetId := request.assetId
        quantity := request.quantity
        orderPrice := request.orderPrice
        totalAmount := totalAmount
        status := .pending
        expiresAt := request.expiresAt
        createdAt := now
        updatedAt := now
        isSome_orderPrice := by
          have h : Rules.broken
              (Rules.priceRequirement request.orderType request.orderPrice) = [] := by
            have h := hv
            simp only [violations, Rules.violations, List.append_eq_nil_iff] at h
            exact h.1.2
          exact (Rules.priceRequirement_eq_ok_iff _ _).1 ((Rules.broken_eq_nil_iff _).1 h) }
  else .error (.ruleViolations violations)

/-! ## Changing the status -/

/-- The order in another status, updated at `now`. -/
def withStatus (o : Order) (status : Status) (now : Instant) : Order :=
  { o with status := status, updatedAt := now }

/-- The order moved to another status, if the move is authorized. -/
def moveTo (o : Order) (target : Status) (byUser bySystem : Bool) (now : Instant) :
    Except TransitionError Order :=
  match o.status.authorize target byUser bySystem with
  | .ok _ => .ok (o.withStatus target now)
  | .error e => .error e

/-- The order cancelled on behalf of a user. -/
def cancelByUser (o : Order) (now : Instant) : Except TransitionError Order :=
  o.moveTo .cancelled true false now

/-- An order is restored from its own record. -/
theorem restore_toOrderRecord (o : Order) : restore o.toOrderRecord = .ok o := by
  simp [restore, o.isSome_orderPrice]

end Order

end OrderDesk
