import OrderDesk.Proofs.Call
import OrderDesk.Proofs.Stores
import OrderDesk.Proofs.Version

/-!
# The parts of placing an order

Placing an order has three parts. The first one prices the order and asks for its user and its
asset; it never asks for money. The second one looks at the balance and turns away an order that
costs more than there is. The third one commits the order, which looks at the balance once more.

## Main definitions

* `OrderDesk.Service.offer`, `OrderDesk.Service.afford`, `OrderDesk.Service.conclude` — the parts.

## Main results

* `OrderDesk.Service.place_eq` — placing an order is its parts one after another.
* `OrderDesk.Service.offer_asksOnly` — the first part asks neither for orders nor for money.
-/

set_option autoImplicit false

namespace OrderDesk

/-- Programs in a row are a lawful monad. -/
instance : LawfulMonad Program :=
  LawfulMonad.mk' Program Program.andThen_done (fun _ _ => rfl) Program.andThen_assoc

namespace Service

/-! ## Reports -/

/-- A report of an error comes at the end of what it reports, or after the part that has failed. -/
theorem reporting_bind {α β : Type} (event : ServiceError → Event) (x : Service α)
    (f : α → Service β) :
    reporting event (x >>= f) = reporting event x >>= fun a => reporting event (f a) := by
  refine (Program.andThen_assoc (ExceptT.run x) _ _).trans (Eq.trans ?_
    (Program.andThen_assoc (ExceptT.run x) _ _).symm)
  congr 1
  funext r
  match r with
  | .ok a => rfl
  | .error (.error e) => rfl
  | .error .sumOverflow => rfl

/-- There is nothing to report about a value. -/
theorem reporting_pure {α : Type} (event : ServiceError → Event) (a : α) :
    reporting event (pure a : Service α) = pure a :=
  rfl

/-! ## The parts -/

/-- What is known of an order before money is looked at. -/
structure Offer where
  now : Instant
  request : OrderRequest
  /-- The price by which the order is valued. -/
  price : Decimal
  /-- What the order costs or brings in. -/
  value : Decimal
  notional_eq : Rules.notional request.quantity price = .ok value

/-- A rule that the service asks, with a proof of what it gives. -/
def provenRule {α : Type} (result : Except RuleViolation α) : Service { a : α // result = .ok a } :=
  match result with
  | .ok a => pure ⟨a, rfl⟩
  | .error e => refuse (.validation e.message)

/-- What is reported of an order that is turned away. -/
def rejection (request : OrderRequest) : ServiceError → Event :=
  .orderRejected request.username request.assetId request.orderType

/-- The user and the asset of an order, and its value. -/
def checkParties (username : Username) (assetId : AssetId) (orderType : OrderType)
    (quantity price : Decimal) :
    Service (User × Asset × { value : Decimal // Rules.notional quantity price = .ok value }) := do
  let user ← requireUser username.text
  if !user.isActive then refuse inactiveUser
  let asset ← requireAsset assetId
  if !asset.isActive then
    refuse (.validation ("Asset " ++ assetId.text ++ " is not available for trading"))
  let value ← provenRule (Rules.notional quantity price)
  rule (Rules.orderValue orderType quantity (some price))
  return (user, asset, value)

/-- The balance of a user covers the value of an order, unless the order sells. -/
def checkFunds (username : Username) (orderType : OrderType) (value : Decimal) :
    Service Decimal := do
  let balance ← ofAnswer Cause.lookup (← ask (.findBalance username.text))
  let available := balance.elim .zero Balance.current
  if orderType.isBuy ∧ available < value then refuse (.insufficientBalance value available)
  return available

/-- The first part: an order is priced, and its user and its asset are asked for. -/
def offer (form : OrderForm) : Service Offer := do
  let now ← clock
  let request ← field (form.check now)
  let price ← effectivePrice request
  let (_, _, value) ← reporting (rejection request)
    (checkParties request.username request.assetId request.orderType request.quantity price)
  return { now, request, price, value := value.1, notional_eq := value.2 }

/-- The second part: the balance is looked at. -/
def afford (o : Offer) : Service Decimal :=
  reporting (rejection o.request) (checkFunds o.request.username o.request.orderType o.value)

/-- The third part: the order is made and committed. -/
def conclude (o : Offer) : Service OrderView := do
  let idTime ← clock
  let token ← token
  let order ← ofAnswer Cause.order (Order.place o.request o.price o.now idTime token)
  let settlement ← commit order
  log (.orderCreated settlement.order settlement.balance)
  return settlement.order.view

/-- A rule may be asked with or without a proof. -/
theorem rule_bind {α β : Type} (result : Except RuleViolation α) (f : α → Service β) :
    rule result >>= f = provenRule result >>= fun a => f a.1 := by
  cases result <;> rfl

/-- A new order is checked against its user and its asset, and then against a balance. -/
theorem checkPlacement_eq (username : Username) (assetId : AssetId) (orderType : OrderType)
    (quantity price : Decimal) :
    checkPlacement username assetId orderType quantity price =
      checkParties username assetId orderType quantity price >>= fun x =>
        checkFunds username orderType x.2.2.1 >>= fun available =>
          pure { user := x.1, asset := x.2.1, available } := by
  unfold checkPlacement checkParties
  rw [bind_assoc]
  refine bind_congr fun user => ?_
  split
  · rfl
  rw [bind_assoc]
  refine bind_congr fun asset => ?_
  split
  · rfl
  rw [rule_bind, bind_assoc]
  refine bind_congr fun value => ?_
  rw [bind_assoc]
  refine bind_congr fun _ => ?_
  unfold checkFunds
  simp only [pure_bind, bind_assoc]
  refine bind_congr fun answer => bind_congr fun balance => ?_
  split <;> rfl

/-- A rejection is reported wherever in the check it comes up. -/
theorem reporting_checkPlacement (request : OrderRequest) (price : Decimal) :
    reporting (rejection request) (checkPlacement request.username request.assetId
        request.orderType request.quantity price) =
      reporting (rejection request) (checkParties request.username request.assetId
          request.orderType request.quantity price) >>= fun x =>
        reporting (rejection request) (checkFunds request.username request.orderType x.2.2.1) >>=
          fun available => pure { user := x.1, asset := x.2.1, available } := by
  rw [checkPlacement_eq, reporting_bind]
  refine bind_congr fun x => ?_
  rw [reporting_bind]
  refine bind_congr fun available => ?_
  exact reporting_pure _ _

/-- Placing an order is its parts one after another. -/
theorem place_eq (form : OrderForm) :
    place form = offer form >>= fun o => afford o >>= fun _ => conclude o := by
  unfold place offer afford conclude
  simp only [bind_assoc]
  refine bind_congr fun now => bind_congr fun request => bind_congr fun price => ?_
  rw [show Event.orderRejected request.username request.assetId request.orderType =
    rejection request from rfl, reporting_checkPlacement]
  simp only [bind_assoc, pure_bind]

/-! ## What the first part asks -/

/-- User, asset and value of an order are no matter of orders or money. -/
theorem checkParties_asksOnly (username : Username) (assetId : AssetId) (orderType : OrderType)
    (quantity price : Decimal) :
    AsksOnly Request.IsPassive (checkParties username assetId orderType quantity price) := by
  have hproven {β : Type} (r : Except RuleViolation β) :
      AsksOnly Request.IsPassive (provenRule r) := by
    cases r <;> trivial
  have hrule : AsksOnly Request.IsPassive
      (rule (Rules.orderValue orderType quantity (some price))) :=
    .ofExcept _ _
  unfold checkParties
  refine (requireUser_asksOnly _).bind fun user => .guarded _ ?_
  refine (requireAsset_asksOnly _).bind fun asset => .guarded _ ?_
  exact (hproven _).bind fun value => hrule.bind fun _ => .pure _

/-- The first part asks neither for orders nor for money. -/
theorem offer_asksOnly (form : OrderForm) : AsksOnly Request.IsPassive (offer form) := by
  refine AsksOnly.bind (.ask trivial) fun now => ?_
  -- what the fields say makes no difference
  generalize form.check now = checked
  refine (field_asksOnly checked).bind fun request => ?_
  refine (effectivePrice_asksOnly request).bind fun price => ?_
  exact (AsksOnly.reporting (fun _ => trivial) _ (checkParties_asksOnly _ _ _ _ _)).bind
    fun x => .pure _

end Service

end OrderDesk
