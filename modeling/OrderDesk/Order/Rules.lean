import OrderDesk.Decimal.Written
import OrderDesk.Order.Kind
import OrderDesk.Time.Instant

/-!
# Rules on the numbers and times of an order

What every order has to satisfy, whoever places it: bounds on quantity and places, a least value of
an order that buys, a price exactly where the order type asks for one, and an expiration time in the
near future. A rule looks at the order alone and at the time it is placed.

## Main definitions

* `OrderDesk.RuleViolation`: a broken rule, with the field it speaks of and its wording.
* `OrderDesk.Rules.notional`: quantity times price.
* `OrderDesk.Rules.violations`: all broken rules of an order, in a fixed order.
-/

set_option autoImplicit false

namespace OrderDesk

/-- A broken rule. -/
inductive RuleViolation where
  | quantityTooSmall
  | quantityTooLarge
  | quantityTooPrecise
  | priceTooPrecise
  | valueOutOfRange
  | valueTooSmall (value : Decimal)
  | priceMissing (orderType : OrderType)
  | priceUnexpected (orderType : OrderType)
  | expiresInThePast
  | expiresTooLate
  /-- A rule that was checked elsewhere, with its field and its wording. -/
  | reported (field message : String)
deriving DecidableEq

namespace Rules

/-! ## Bounds -/

/-- The least quantity of an order. -/
def minQuantity : Decimal :=
  0.001

/-- The largest quantity of an order. -/
def maxQuantity : Decimal :=
  1000

/-- A quantity has no more places than this. -/
def maxQuantityPlaces : Nat := 8

/-- A price has no more places than this. -/
def maxPricePlaces : Nat := 2

/-- The least value of an order that buys. -/
def minOrderValue : Decimal :=
  1.00

/-- The price that stands in for a price not known. -/
def estimatePrice : Decimal :=
  1.00

/-- An order expires no later than this many days ahead. -/
def maxExpirationDays : Nat := 30

end Rules

namespace RuleViolation

open Rules

/-- The field that a broken rule speaks of. -/
def field : RuleViolation → String
  | quantityTooSmall | quantityTooLarge | quantityTooPrecise => "quantity"
  | priceTooPrecise | priceMissing _ | priceUnexpected _ => "order_price"
  | valueOutOfRange | valueTooSmall _ => "order_value"
  | expiresInThePast | expiresTooLate => "expires_at"
  | reported field _ => field

/-- The wording of a broken rule. -/
def message : RuleViolation → String
  | quantityTooSmall => "Quantity must be at least " ++ minQuantity.text
  | quantityTooLarge => "Quantity cannot exceed " ++ maxQuantity.text
  | quantityTooPrecise =>
    "Quantity cannot have more than " ++ toString maxQuantityPlaces ++ " decimal places"
  | priceTooPrecise =>
    "Price cannot have more than " ++ toString maxPricePlaces ++ " decimal places"
  | valueOutOfRange => "Order value exceeds the supported range"
  | valueTooSmall value =>
    "Order value " ++ value.truncated ++ " is below minimum of " ++ minOrderValue.truncated
  | priceMissing orderType => orderType.name ++ " order requires an order_price"
  | priceUnexpected orderType => orderType.name ++ " order should not specify order_price"
  | expiresInThePast => "Expiration time must be in the future"
  | expiresTooLate =>
    "Expiration time cannot be more than " ++ toString maxExpirationDays ++ " days in the future"
  | reported _ message => message

end RuleViolation

namespace Rules

/-! ## Single rules -/

/-- The quantity lies between its bounds, both included. -/
def quantityRange (quantity : Decimal) : Except RuleViolation Unit :=
  if quantity < minQuantity then .error .quantityTooSmall
  else if maxQuantity < quantity then .error .quantityTooLarge
  else .ok ()

/-- The quantity has few enough places, trailing zeros not counted. -/
def quantityPrecision (quantity : Decimal) : Except RuleViolation Unit :=
  if maxQuantityPlaces < quantity.fractionDigits then .error .quantityTooPrecise else .ok ()

/-- The price has few enough places, trailing zeros not counted. -/
def pricePrecision (price : Decimal) : Except RuleViolation Unit :=
  if maxPricePlaces < price.fractionDigits then .error .priceTooPrecise else .ok ()

/-- The value of an order. -/
def notional (quantity price : Decimal) : Except RuleViolation Decimal :=
  match quantity.product? price with
  | some value => .ok value
  | none => .error .valueOutOfRange

/-- An order that buys reaches the least value; an order that sells may have any. -/
def orderValue (orderType : OrderType) (quantity : Decimal) (price : Option Decimal) :
    Except RuleViolation Unit :=
  if !orderType.isBuy then .ok ()
  else match notional quantity (price.getD estimatePrice) with
    | .error e => .error e
    | .ok value => if value < minOrderValue then .error (.valueTooSmall value) else .ok ()

/-- An order with an expiration time expires after `now`, and at most thirty days after it. -/
def expiration (expiresAt : Option Instant) (now : Instant) : Except RuleViolation Unit :=
  match expiresAt with
  | none => .ok ()
  | some t =>
    if t ≤ now then .error .expiresInThePast
    else if now.plusDays maxExpirationDays < t then .error .expiresTooLate
    else .ok ()

/-- A limit order names a price and a market order does not. -/
def priceRequirement (orderType : OrderType) (price : Option Decimal) : Except RuleViolation Unit :=
  match orderType.isLimit, price with
  | true, none => .error (.priceMissing orderType)
  | false, some _ => .error (.priceUnexpected orderType)
  | _, _ => .ok ()

/-! ## All rules -/

/-- What a rule has against an order: at most one violation. -/
def broken (rule : Except RuleViolation Unit) : List RuleViolation :=
  match rule with
  | .ok _ => []
  | .error e => [e]

/-- All broken rules: quantity, price, order type against price, expiration. -/
def violations (orderType : OrderType) (quantity : Decimal) (price : Option Decimal)
    (expiresAt : Option Instant) (now : Instant) : List RuleViolation :=
  broken (quantityRange quantity) ++ broken (quantityPrecision quantity) ++
    (match price with
      | some price => broken (pricePrecision price)
      | none => []) ++
    broken (priceRequirement orderType price) ++ broken (expiration expiresAt now)

/-- A rule is kept exactly if nothing is held against the order. -/
theorem broken_eq_nil_iff (rule : Except RuleViolation Unit) :
    broken rule = [] ↔ rule = .ok () := by
  cases rule <;> simp [broken]

/-- The type and the price of an order agree exactly if the price is there for a limit order. -/
theorem priceRequirement_eq_ok_iff (orderType : OrderType) (price : Option Decimal) :
    priceRequirement orderType price = .ok () ↔ price.isSome = orderType.isLimit := by
  unfold priceRequirement
  cases orderType.isLimit <;> cases price <;> simp

end Rules

end OrderDesk
