import OrderDesk.Order.Form
import OrderDesk.Service.Program

/-!
# Checks that need the stores

Who may do what with which order, and which orders may be placed. A check gives back what it has
looked up.

## Main definitions

* `OrderDesk.Service.permit`: an actor may act on a user's orders.
* `OrderDesk.Service.ownedOrder`: an order that a user may act on.
* `OrderDesk.Service.checkPlacement`, `OrderDesk.Service.checkCancellation`,
  `OrderDesk.Service.checkListing`.
-/

set_option autoImplicit false

namespace OrderDesk.Service

/-! ## Users and permissions -/

/-- What an inactive user is told. -/
def inactiveUser : ServiceError :=
  .permissionDenied "User account is inactive"

/-- What a user is told about the order of somebody else. -/
def foreignOrder : ServiceError :=
  .permissionDenied "Access denied: order belongs to another user"

/-- Administrators act on everybody's orders, customers on their own ones, inactive users on
none. -/
def permit (actor : User) (owner : String) : Except ServiceError Unit :=
  if !actor.isActive then .error inactiveUser
  else if actor.isAdmin ∨ actor.username.text = owner then .ok ()
  else .error foreignOrder

/-- The value of a wrong field is not accepted. -/
def field {α : Type} (result : Except FieldError α) : Service α :=
  ofExcept (fun e => .validation e.message) result

/-- The user of a name. -/
def requireUser (username : String) : Service User := do
  match ← ofAnswer Cause.lookup (← ask (.findUser username)) with
  | some user => return user
  | none => refuse (.notFound .user username)

/-- The asset of a symbol. -/
def requireAsset (assetId : AssetId) : Service Asset := do
  match ← ofAnswer Cause.lookup (← ask (.findAsset assetId)) with
  | some asset => return asset
  | none => refuse (.notFound .asset assetId.text)

/-- The stored order of an order ID. -/
def requireOrder (orderId : OrderId) : Service Order := do
  match ← ofAnswer Cause.order (← ask (.findOrder orderId)) with
  | some order => return order
  | none => refuse (.notFound .order orderId.text)

/-- The order of an order ID, if the user may act on it. -/
def ownedOrder (username orderId : String) : Service Order := do
  let orderId ← field (Field.orderId orderId)
  let actor ← requireUser username
  let order ← requireOrder orderId
  ofExcept id (permit actor order.username.text)
  return order

/-! ## Placing -/

/-- What has been looked up for a new order. -/
structure Placement where
  user : User
  asset : Asset
  /-- The money of the user, zero without a balance. -/
  available : Decimal
deriving DecidableEq

/-- The current price of an asset, which has to be positive. -/
def marketPrice (assetId : AssetId) : Service Decimal := do
  let asset ← requireAsset assetId
  if asset.price ≤ Decimal.zero then
    refuse (.validation ("No market price available for " ++ assetId.text))
  return asset.price

/-- A rule on orders that the service asks. -/
def rule {α : Type} (result : Except RuleViolation α) : Service α :=
  ofExcept (fun e => .validation e.message) result

/-- An active user may place an order on an active asset that is worth enough and, if it buys, paid
for by the user's balance. Nothing is asked of an order that sells but its value. -/
def checkPlacement (username : Username) (assetId : AssetId) (orderType : OrderType)
    (quantity price : Decimal) : Service Placement := do
  let user ← requireUser username.text
  if !user.isActive then refuse inactiveUser
  let asset ← requireAsset assetId
  if !asset.isActive then
    refuse (.validation ("Asset " ++ assetId.text ++ " is not available for trading"))
  let value ← rule (Rules.notional quantity price)
  rule (Rules.orderValue orderType quantity (some price))
  let balance ← ofAnswer Cause.lookup (← ask (.findBalance username.text))
  let available := balance.elim .zero Balance.current
  if orderType.isBuy ∧ available < value then refuse (.insufficientBalance value available)
  return { user, asset, available }

/-! ## Cancelling and listing -/

/-- An order that the user may act on and may still cancel. -/
def checkCancellation (username orderId : String) : Service Order := do
  let order ← ownedOrder username orderId
  ofExcept .ofTransition (order.status.authorize .cancelled true false)
  return order

/-- The least limit of a listing. -/
def minListLimit : Nat := 1

/-- The largest limit of a listing. -/
def maxListLimit : Nat := 100

/-- A limit that is given lies between its bounds. -/
def listLimitAllowed (limit : Option Int) : Bool :=
  match limit with
  | none => true
  | some n => (minListLimit : Int) ≤ n && n ≤ (maxListLimit : Int)

/-- A known user may list orders with an allowed limit; the limit is looked at first. -/
def checkListing (username : String) (limit : Option Int) : Service User := do
  if !listLimitAllowed limit then
    refuse (.validation ("Limit must be between " ++ toString minListLimit ++ " and " ++
      toString maxListLimit))
  requireUser username

end OrderDesk.Service
