import OrderDesk.Proofs.Contract
import OrderDesk.Service.Change
import OrderDesk.Service.Place
import OrderDesk.Service.Query

/-!
# Calls of the service

A client, or the system, calls the service in one of five ways. Most of what a call asks only looks
something up. This module says which requests the checks of the service ask, whatever they are
answered.

## Main definitions

* `OrderDesk.Call`, `OrderDesk.Receipt` — the five calls and what they give back.
* `OrderDesk.Call.program` — the requests of a call.
* `OrderDesk.Request.IsPassive` — requests about neither orders nor money.

## Main results

* `OrderDesk.Service.checkPlacement_asksOnly` and its neighbours — what a check asks.
-/

set_option autoImplicit false

namespace OrderDesk

/-- A call of the service. -/
inductive Call where
  | place (form : OrderForm)
  | cancel (username orderId : String)
  | update (orderId : String) (target : Status) (actor : Actor)
  /-- One order is asked for. -/
  | order (username orderId : String)
  /-- The newest orders of a user are asked for. -/
  | orders (query : ListingQuery)
deriving DecidableEq

/-- What a call that succeeds gives back. -/
inductive Receipt where
  | order (view : OrderView)
  | listing (listing : OrderListing)
deriving DecidableEq

/-- Results are compared as values. -/
instance decidableEqExcept {ε α : Type} [DecidableEq ε] [DecidableEq α] :
    DecidableEq (Except ε α)
  | .ok a, .ok b => decidable_of_iff (a = b) (by simp)
  | .error a, .error b => decidable_of_iff (a = b) (by simp)
  | .ok _, .error _ => isFalse (by simp)
  | .error _, .ok _ => isFalse (by simp)

/-- The end of a call: a receipt, what a client is told instead, or a sum that is out of range. -/
abbrev Reply : Type :=
  Except (Failure ServiceError) Receipt

/-- The service that a call asks for; a listing without a limit has the default one. -/
def Call.service (defaultLimit : Nat) : Call → Service Receipt
  | place form => do return .order (← Service.place form)
  | cancel username orderId => do return .order (← Service.cancel username orderId)
  | update orderId target actor => do
    return .order (← Service.updateStatus orderId target actor)
  | order username orderId => do return .order (← Service.order username orderId)
  | orders query => do return .listing (← Service.orders defaultLimit query)

/-- The requests of a call and its end. -/
def Call.program (defaultLimit : Nat) (call : Call) : Program Reply :=
  ExceptT.run (call.service defaultLimit)

/-- A request that asks about neither orders nor money and changes nothing. -/
def Request.IsPassive : Request → Prop
  | clock | token | findUser _ | findAsset _ | log _ => True
  | findBalance _ | findOrder _ | ordersOf .. | saveIfStatus .. | commit .. => False

/-- A request that looks something up, anything but a single order. -/
def Request.IsReading : Request → Prop
  | clock | token | findUser _ | findAsset _ | log _ | findBalance _ | ordersOf .. => True
  | findOrder _ | saveIfStatus .. | commit .. => False

/-- Passive requests are among those that look something up. -/
theorem Request.IsPassive.isReading {request : Request} (h : request.IsPassive) :
    request.IsReading := by
  cases request <;> first | exact h.elim | trivial

/-- Whatever looks something up is no commit. -/
theorem Request.IsReading.ne_commit {request : Request} (h : request.IsReading) (side : Side)
    (order : Order) : request ≠ .commit side order := by
  rintro rfl
  exact h

namespace Service

/-! ## What the checks ask -/

/-- A report of an error adds a log entry to what a service asks. -/
theorem AsksOnly.reporting {α : Type} {P : Request → Prop} (hlog : ∀ event, P (.log event))
    (event : ServiceError → Event) {x : Service α} (hx : AsksOnly P x) :
    AsksOnly P (Service.reporting event x) := by
  refine (Program.keeps_andThen (ExceptT.run x) _ ()).2 (Program.Keeps.mono hx ?_)
  rintro ⟨⟩ r -
  match r with
  | .ok a => exact trivial
  | .error (.error e) => exact ⟨hlog _, fun _ _ _ => trivial⟩
  | .error .sumOverflow => exact trivial

/-- Checks of fields and rules ask nothing. -/
theorem field_asksOnly {α : Type} {P : Request → Prop} (r : Except FieldError α) :
    AsksOnly P (field r) :=
  .ofExcept _ r

/-- The user of a name is looked up. -/
theorem requireUser_asksOnly (username : String) :
    AsksOnly Request.IsPassive (requireUser username) := by
  refine AsksOnly.bind (.ask trivial) fun answer => ?_
  refine AsksOnly.bind (.ofAnswer (fun _ => trivial) _ answer) fun user => ?_
  cases user with
  | none => exact .refuse _
  | some user => exact .pure user

/-- The asset of a symbol is looked up. -/
theorem requireAsset_asksOnly (assetId : AssetId) :
    AsksOnly Request.IsPassive (requireAsset assetId) := by
  refine AsksOnly.bind (.ask trivial) fun answer => ?_
  refine AsksOnly.bind (.ofAnswer (fun _ => trivial) _ answer) fun asset => ?_
  cases asset with
  | none => exact .refuse _
  | some asset => exact .pure asset

/-- The market price comes from the asset. -/
theorem marketPrice_asksOnly (assetId : AssetId) :
    AsksOnly Request.IsPassive (marketPrice assetId) := by
  refine (requireAsset_asksOnly assetId).bind fun asset => ?_
  exact .guarded _ (.pure _)

/-- The price of an order is its limit price or comes from the asset. -/
theorem effectivePrice_asksOnly (request : OrderRequest) :
    AsksOnly Request.IsPassive (effectivePrice request) := by
  unfold effectivePrice
  cases request.orderPrice with
  | none => exact marketPrice_asksOnly _
  | some price => exact .pure price

/-- A new order is checked against its user, its asset and a balance. -/
theorem checkPlacement_asksOnly (username : Username) (assetId : AssetId) (orderType : OrderType)
    (quantity price : Decimal) :
    AsksOnly Request.IsReading (checkPlacement username assetId orderType quantity price) := by
  have hrule {β : Type} (r : Except RuleViolation β) : AsksOnly Request.IsReading (rule r) :=
    .ofExcept _ r
  refine ((requireUser_asksOnly _).mono fun _ => Request.IsPassive.isReading).bind fun user => ?_
  refine .guarded _ ?_
  refine ((requireAsset_asksOnly _).mono fun _ => Request.IsPassive.isReading).bind fun asset => ?_
  refine .guarded _ ?_
  refine (hrule _).bind fun value => (hrule _).bind fun _ => ?_
  refine AsksOnly.bind (.ask trivial) fun answer => ?_
  refine AsksOnly.bind (.ofAnswer (fun _ => trivial) _ answer) fun balance => ?_
  exact .guarded _ (.pure _)

/-- A listing is checked against its user. -/
theorem checkListing_asksOnly (username : String) (limit : Option Int) :
    AsksOnly Request.IsPassive (checkListing username limit) := by
  unfold checkListing
  refine .guarded _ ?_
  exact requireUser_asksOnly _

end Service

end OrderDesk
