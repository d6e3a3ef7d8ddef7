import OrderDesk.Order.View
import OrderDesk.Service.Check

/-!
# Placing an order

The fields of the form are checked first, then the order is priced, then users, assets and balances
are looked up, then the rules on orders are asked, and last the money moves and the order is stored.
-/

set_option autoImplicit false

namespace OrderDesk.Service

/-- Move the money of an order and store it; the commit is reported. -/
def settle (side : Side) (order : Order) : Program (Except (Failure TransactionError) Settlement) :=
  .ask (.commit side order) fun
    | .ok settlement =>
      .ask (.log (.committed side settlement.order settlement.balance)) fun _ =>
        .done (.ok settlement)
    | .error e => .done (.error e)

/-- The price by which an order is valued: its limit price, or the market price. -/
def effectivePrice (request : OrderRequest) : Service Decimal :=
  match request.orderPrice with
  | some price => pure price
  | none => marketPrice request.assetId

/-- Commit an order on its own side; a commit that fails is reported before its cause is told. -/
def commit (order : Order) : Service Settlement := do
  match ← ExceptT.lift (settle order.side order) with
  | .ok settlement => return settlement
  | .error (.error e) =>
    log (.transactionFailed order.orderId e)
    fail (.transaction e)
  | .error .sumOverflow => throw .sumOverflow

/-- Place the order of a form. -/
def place (form : OrderForm) : Service OrderView := do
  let now ← clock
  let request ← field (form.check now)
  let price ← effectivePrice request
  let _ ← reporting (.orderRejected request.username request.assetId request.orderType)
    (checkPlacement request.username request.assetId request.orderType request.quantity price)
  let idTime ← clock
  let token ← token
  let order ← ofAnswer Cause.order (Order.place request price now idTime token)
  let settlement ← commit order
  log (.orderCreated settlement.order settlement.balance)
  return settlement.order.view

end OrderDesk.Service
