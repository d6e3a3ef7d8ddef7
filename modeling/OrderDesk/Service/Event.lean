import OrderDesk.Log.Level
import OrderDesk.Service.Error

/-!
# Events

What the service reports about its work, one event for each decision of weight. An event has a
level, a message and named fields.
-/

set_option autoImplicit false

namespace OrderDesk

/-- What the service reports. -/
inductive Event where
  | orderRejected (username : Username) (assetId : AssetId) (orderType : OrderType)
      (error : ServiceError)
  | transactionFailed (orderId : OrderId) (error : TransactionError)
  | orderCreated (order : Order) (balance : Balance)
  /-- The money of an order has moved and the order is stored. -/
  | committed (side : Side) (order : Order) (balance : Balance)
  | cancelled (orderId : OrderId) (username : String) (start : Status)
  | changeRejected (orderId : String) (start target : Status) (error : TransitionError)
  | statusUpdated (orderId : String) (start target : Status) (bySystem : Bool)
  | listed (username : Username) (status : Option Status) (limit count : Nat)
  /-- The surroundings failed; the client is not told how. -/
  | infrastructureFailure (cause : Cause)
deriving DecidableEq

namespace Event

/-- The value of a field. -/
inductive Value where
  | text (s : String)
  | flag (b : Bool)
  | count (n : Nat)
deriving DecidableEq

/-- The level of an event. -/
def level : Event → LogLevel
  | committed .. | listed .. => .debug
  | orderCreated .. | cancelled .. | statusUpdated .. => .info
  | orderRejected .. | transactionFailed .. | changeRejected .. => .warn
  | infrastructureFailure _ => .error

/-- The message of an event. -/
def message : Event → String
  | orderRejected .. => "Order rejected"
  | transactionFailed .. => "Order transaction failed"
  | orderCreated .. => "Order created"
  | committed .buy .. => "Buy order committed"
  | committed .sell .. => "Sell order committed"
  | cancelled .. => "Order cancelled by user"
  | changeRejected .. => "Status change rejected"
  | statusUpdated .. => "Order status updated"
  | listed .. => "Orders listed"
  | infrastructureFailure _ => "Infrastructure failure"

/-- The words for a status that may be missing. -/
def statusText : Option Status → String
  | some status => "Some(" ++ status.title ++ ")"
  | none => "None"

/-- The name of the field that shows the money moved. -/
def amountField : Side → String
  | .buy => "debited"
  | .sell => "credited"

/-- The fields of an event. -/
def fields : Event → List (String × Value)
  | orderRejected username assetId orderType error =>
    [("username", .text username.text), ("asset_id", .text assetId.text),
      ("order_type", .text orderType.name), ("error", .text error.message)]
  | transactionFailed orderId error =>
    [("order_id", .text orderId.text), ("error", .text error.message)]
  | orderCreated order balance =>
    [("order_id", .text order.orderId.text), ("username", .text order.username.text),
      ("order_type", .text order.orderType.name), ("asset_id", .text order.assetId.text),
      ("total_amount", .text order.totalAmount.text), ("balance", .text balance.current.text)]
  | committed side order balance =>
    [("order_id", .text order.orderId.text), ("username", .text order.username.text),
      (amountField side, .text order.totalAmount.text), ("balance", .text balance.current.text)]
  | cancelled orderId username start =>
    [("order_id", .text orderId.text), ("username", .text username), ("from", .text start.name)]
  | changeRejected orderId start target error =>
    [("order_id", .text orderId), ("from", .text start.name), ("to", .text target.name),
      ("error", .text error.message)]
  | statusUpdated orderId start target bySystem =>
    [("order_id", .text orderId), ("from", .text start.name), ("to", .text target.name),
      ("system", .flag bySystem)]
  | listed username status limit count =>
    [("username", .text username.text), ("status", .text (statusText status)),
      ("limit", .count limit), ("count", .count count)]
  | infrastructureFailure cause =>
    [("operation", .text cause.operation), ("error", .text cause.message)]

end Event

end OrderDesk
