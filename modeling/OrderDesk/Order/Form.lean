import OrderDesk.Order.Basic
import OrderDesk.Text.Blank

/-!
# Order forms

An order form is what a client fills in. Its fields are checked one by one before anything is looked
up, and the first field that is wrong is reported. The checks bring the user name and the asset
symbol into their normal forms.

The expiration policy of a form is its own: a limit order must expire, within a year. The rules on
orders, which allow thirty days, are asked later.

## Main definitions

* `OrderDesk.OrderForm`: the fields as filled in.
* `OrderDesk.FieldError`: what is wrong with a field.
* `OrderDesk.Field.username` and its neighbours: the checks of single fields.
* `OrderDesk.OrderForm.check`: the request that a form stands for.
-/

set_option autoImplicit false

namespace OrderDesk

/-- What is wrong with a field. -/
inductive FieldError where
  | usernameMissing
  | usernameLength
  | usernameCharacters
  | assetIdMissing
  | assetIdTooLong
  | assetIdCharacters
  | quantityNotPositive
  | priceNotPositive
  | priceTooHigh
  | expirationMissing
  | expirationInThePast
  | expirationTooLate
  /-- A rule on orders that is asked of the form already. -/
  | rule (violation : RuleViolation)
  | orderId (e : OrderIdError)
deriving DecidableEq

namespace Field

/-! ## Bounds -/

/-- A user name has at least this many characters. -/
def minUsernameLength : Nat := 3

/-- A user name has at most this many characters. -/
def maxUsernameLength : Nat := 50

/-- An asset symbol has at most this many bytes. -/
def maxAssetIdLength : Nat := 10

/-- The highest limit price. -/
def maxPrice : Decimal :=
  1000000

/-- A form expires no later than this many days ahead. -/
def maxExpirationDays : Nat := 365

end Field

/-- The wording of a wrong field. -/
def FieldError.message : FieldError → String
  | usernameMissing => "Username is required"
  | usernameLength =>
    "Username must be between " ++ toString Field.minUsernameLength ++ " and " ++
      toString Field.maxUsernameLength ++ " characters"
  | usernameCharacters => "Username can only contain letters, numbers, underscores and hyphens"
  | assetIdMissing => "Asset ID is required"
  | assetIdTooLong =>
    "Asset ID cannot be longer than " ++ toString Field.maxAssetIdLength ++ " characters"
  | assetIdCharacters => "Asset ID can only contain letters and numbers"
  | quantityNotPositive => "Quantity must be positive"
  | priceNotPositive => "Price must be positive"
  | priceTooHigh => "Price cannot exceed " ++ Field.maxPrice.text
  | expirationMissing => "expires_at is required for limit orders"
  | expirationInThePast => "expires_at must be in the future"
  | expirationTooLate =>
    "expires_at cannot be more than " ++ toString Field.maxExpirationDays ++ " days in the future"
  | rule violation => violation.message
  | orderId e => e.message

namespace Field

/-! ## Single fields -/

/-- A rule on orders, asked of a field. -/
def ofRule {α : Type} (result : Except RuleViolation α) : Except FieldError α :=
  match result with
  | .ok a => .ok a
  | .error e => .error (.rule e)

/-- A character of a user name. -/
def isUsernameCharacter (c : Char) : Bool :=
  c.isAlphanum || c == '_' || c == '-'

/-- A user name without the blanks at its ends: 3 to 50 ASCII letters, digits, underscores and
hyphens. -/
def username (s : String) : Except FieldError Username :=
  let name := Text.trim s
  if name.isEmpty then .error .usernameMissing
  else if name.length < minUsernameLength ∨ maxUsernameLength < name.length then
    .error .usernameLength
  else if !name.toList.all isUsernameCharacter then .error .usernameCharacters
  else .ok ⟨name⟩

/-- An asset symbol in its normal form: 1 to 10 ASCII letters and digits. The length is measured in
bytes and before the characters are looked at. -/
def assetId (s : String) : Except FieldError AssetId :=
  let symbol := Text.trim s
  if symbol.isEmpty then .error .assetIdMissing
  else if maxAssetIdLength < symbol.utf8ByteSize then .error .assetIdTooLong
  else if !symbol.toList.all Char.isAlphanum then .error .assetIdCharacters
  else .ok (AssetId.ofText symbol)

/-- A positive quantity with few enough places, between its bounds. -/
def quantity (q : Decimal) : Except FieldError Decimal := do
  if q ≤ Decimal.zero then throw .quantityNotPositive
  ofRule (Rules.quantityPrecision q)
  ofRule (Rules.quantityRange q)
  return q

/-- A positive limit price with few enough places, up to the highest one. -/
def price (p : Decimal) : Except FieldError Decimal := do
  if p ≤ Decimal.zero then throw .priceNotPositive
  ofRule (Rules.pricePrecision p)
  if maxPrice < p then throw .priceTooHigh
  return p

/-- The price of a form: a correct one for a limit order, none for a market order. -/
def limitPrice (orderType : OrderType) (p : Option Decimal) : Except FieldError (Option Decimal) :=
  match orderType.isLimit, p with
  | true, some p => some <$> price p
  | true, none => .error (.rule (.priceMissing orderType))
  | false, some _ => .error (.rule (.priceUnexpected orderType))
  | false, none => .ok none

/-- The expiration time of a form: a limit order has one, and every one lies after `now` and within
a year of it. -/
def expiresAt (orderType : OrderType) (t : Option Instant) (now : Instant) :
    Except FieldError (Option Instant) :=
  match t with
  | none => if orderType.isLimit then .error .expirationMissing else .ok none
  | some t =>
    if t ≤ now then .error .expirationInThePast
    else if now.plusDays maxExpirationDays < t then .error .expirationTooLate
    else .ok (some t)

/-- An order ID, kept as it is written. -/
def orderId (s : String) : Except FieldError OrderId :=
  match OrderId.parse s with
  | .ok _ => .ok ⟨s⟩
  | .error e => .error (.orderId e)

end Field

/-! ## Forms -/

/-- An order as a client asks for it. -/
structure OrderForm where
  username : String
  orderType : OrderType
  assetId : String
  quantity : Decimal
  orderPrice : Option Decimal
  expiresAt : Option Instant
deriving DecidableEq

/-- The request that a form stands for. User name, asset symbol, quantity, price and expiration time
are checked in this order. -/
def OrderForm.check (form : OrderForm) (now : Instant) : Except FieldError OrderRequest := do
  let username ← Field.username form.username
  let assetId ← Field.assetId form.assetId
  let quantity ← Field.quantity form.quantity
  let orderPrice ← Field.limitPrice form.orderType form.orderPrice
  let expiresAt ← Field.expiresAt form.orderType form.expiresAt now
  return { username, orderType := form.orderType, assetId, quantity, orderPrice, expiresAt }

example : (Field.username "  bob-1 ").toOption = some ⟨"bob-1"⟩ := by decide +kernel

example : (Field.assetId "usdc\n").toOption = some ⟨"USDC"⟩ := by decide +kernel

end OrderDesk
