import OrderDesk.Account.Balance
import OrderDesk.Account.User
import OrderDesk.Asset
import OrderDesk.Decimal.Binary64
import OrderDesk.Json.Record
import OrderDesk.Order.Form
import OrderDesk.Order.View
import OrderDesk.Service.Event
import OrderDesk.Time.Rfc3339

/-!
# Records on the wire

The seven records that clients and stores exchange as JSON: order forms, orders, listing queries,
listings, users, assets and balances. Texts are kept as they are; names of types, sides, statuses,
roles and categories are exact. Decimals are written as texts, so that no digit is lost, and may be
read from numbers too. Events are written, but never read.
-/

set_option autoImplicit false

namespace OrderDesk

open Json

/-! ## Single values -/

namespace Wire

/-- A decimal, from a text or a number. -/
def decimal? : Json → Option Decimal
  | .string text => text.bind Decimal.read?
  | .number n => n.toDecimal?
  | _ => none

/-- An instant, from a text. -/
def instant? (json : Json) : Option Instant :=
  (text? json).bind Instant.read?

/-- An order type, from its name. -/
def orderType? (json : Json) : Option OrderType :=
  (variant? json).bind OrderType.ofName?

/-- A side, from its name. -/
def side? (json : Json) : Option Side :=
  (variant? json).bind Side.ofName?

/-- A status, from its name. -/
def status? (json : Json) : Option Status :=
  (variant? json).bind Status.ofName?

/-- A role, from its name. -/
def role? (json : Json) : Option Role :=
  (variant? json).bind Role.ofName?

/-- A category, from its name. -/
def category? (json : Json) : Option AssetCategory :=
  (variant? json).bind AssetCategory.ofName?

/-- A decimal as a text. -/
def ofDecimal (a : Decimal) : Json :=
  .ofText a.text

/-- An instant as a text. -/
def ofInstant (t : Instant) : Json :=
  .ofText t.text

end Wire

open Wire

/-! ## Order forms -/

/-- The fields of an order form. -/
def OrderForm.fieldNames : List String :=
  ["username", "order_type", "asset_id", "quantity", "order_price", "expires_at"]

/-- An order form as JSON. -/
def OrderForm.toJson (form : OrderForm) : Json :=
  .ofMembers [
    ("username", .ofText form.username),
    ("order_type", .ofText form.orderType.name),
    ("asset_id", .ofText form.assetId),
    ("quantity", ofDecimal form.quantity),
    ("order_price", .ofOption ofDecimal form.orderPrice),
    ("expires_at", .ofOption ofInstant form.expiresAt)]

/-- The order form of a JSON value. -/
def OrderForm.ofJson? (json : Json) : Option OrderForm := do
  match ← fields? fieldNames 2 json with
  | [username, orderType, assetId, quantity, orderPrice, expiresAt] =>
    return {
      username := ← required username text?
      orderType := ← required orderType orderType?
      assetId := ← required assetId text?
      quantity := ← required quantity decimal?
      orderPrice := ← optional orderPrice decimal?
      expiresAt := ← optional expiresAt instant? }
  | _ => none

/-! ## Orders -/

/-- The fields of an order. -/
def OrderView.fieldNames : List String :=
  ["order_id", "username", "order_type", "side", "asset_id", "quantity", "order_price",
    "total_amount", "status", "expires_at", "created_at", "updated_at"]

/-- An order as JSON. -/
def OrderView.toJson (o : OrderView) : Json :=
  .ofMembers [
    ("order_id", .ofText o.orderId.text),
    ("username", .ofText o.username.text),
    ("order_type", .ofText o.orderType.name),
    ("side", .ofText o.side.name),
    ("asset_id", .ofText o.assetId.text),
    ("quantity", ofDecimal o.quantity),
    ("order_price", .ofOption ofDecimal o.orderPrice),
    ("total_amount", ofDecimal o.totalAmount),
    ("status", .ofText o.status.name),
    ("expires_at", .ofOption ofInstant o.expiresAt),
    ("created_at", ofInstant o.createdAt),
    ("updated_at", ofInstant o.updatedAt)]

/-- The order of a JSON value. Its side is not compared with its type. -/
def OrderView.ofJson? (json : Json) : Option OrderView := do
  match ← fields? fieldNames 0 json with
  | [orderId, username, orderType, side, assetId, quantity, orderPrice, totalAmount, status,
      expiresAt, createdAt, updatedAt] =>
    return {
      orderId := ⟨← required orderId text?⟩
      username := ⟨← required username text?⟩
      orderType := ← required orderType orderType?
      side := ← required side side?
      assetId := ⟨← required assetId text?⟩
      quantity := ← required quantity decimal?
      orderPrice := ← optional orderPrice decimal?
      totalAmount := ← required totalAmount decimal?
      status := ← required status status?
      expiresAt := ← optional expiresAt instant?
      createdAt := ← required createdAt instant?
      updatedAt := ← required updatedAt instant? }
  | _ => none

/-! ## Listings -/

/-- The fields of a listing query. -/
def ListingQuery.fieldNames : List String :=
  ["username", "status", "limit"]

/-- A listing query as JSON. -/
def ListingQuery.toJson (query : ListingQuery) : Json :=
  .ofMembers [
    ("username", .ofText query.username),
    ("status", .ofOption (fun s : Status => .ofText s.name) query.status),
    ("limit", .ofOption .ofInt query.limit)]

/-- The listing query of a JSON value. -/
def ListingQuery.ofJson? (json : Json) : Option ListingQuery := do
  match ← fields? fieldNames 2 json with
  | [username, status, limit] =>
    return {
      username := ← required username text?
      status := ← optional status status?
      limit := ← optional limit int64? }
  | _ => none

/-- The fields of a listing. -/
def OrderListing.fieldNames : List String :=
  ["orders", "count", "limit"]

/-- A listing as JSON. -/
def OrderListing.toJson (listing : OrderListing) : Json :=
  .ofMembers [
    ("orders", .array (listing.orders.map OrderView.toJson)),
    ("count", .ofInt listing.count),
    ("limit", .ofInt listing.limit)]

/-- The orders of a JSON array. -/
def OrderListing.orders? : Json → Option (List OrderView)
  | .array items => items.mapM OrderView.ofJson?
  | _ => none

/-- The listing of a JSON value. Its count is not compared with its orders. -/
def OrderListing.ofJson? (json : Json) : Option OrderListing := do
  match ← fields? fieldNames 0 json with
  | [orders, count, limit] =>
    return {
      orders := ← required orders orders?
      count := ← required count nat64?
      limit := ← required limit nat64? }
  | _ => none

/-! ## Users, assets and balances -/

/-- The fields of a user. -/
def User.fieldNames : List String :=
  ["username", "role", "is_active"]

/-- A user as JSON. -/
def User.toJson (user : User) : Json :=
  .ofMembers [
    ("username", .ofText user.username.text),
    ("role", .ofText user.role.name),
    ("is_active", .bool user.isActive)]

/-- The user of a JSON value. -/
def User.ofJson? (json : Json) : Option User := do
  match ← fields? fieldNames 0 json with
  | [username, role, isActive] =>
    return {
      username := ⟨← required username text?⟩
      role := ← required role role?
      isActive := ← required isActive bool? }
  | _ => none

/-- The fields of an asset. -/
def Asset.fieldNames : List String :=
  ["asset_id", "name", "price", "is_active", "category"]

/-- An asset as JSON. -/
def Asset.toJson (asset : Asset) : Json :=
  .ofMembers [
    ("asset_id", .ofText asset.assetId.text),
    ("name", .ofText asset.name),
    ("price", ofDecimal asset.price),
    ("is_active", .bool asset.isActive),
    ("category", .ofText asset.category.name)]

/-- The asset of a JSON value. The symbol is not brought into its normal form and the category is
not compared with it. -/
def Asset.ofJson? (json : Json) : Option Asset := do
  match ← fields? fieldNames 0 json with
  | [assetId, name, price, isActive, category] =>
    return {
      assetId := ⟨← required assetId text?⟩
      name := ← required name text?
      price := ← required price decimal?
      isActive := ← required isActive bool?
      category := ← required category category? }
  | _ => none

/-- The fields of a balance. -/
def Balance.fieldNames : List String :=
  ["username", "current_balance", "updated_at"]

/-- A balance as JSON. -/
def Balance.toJson (balance : Balance) : Json :=
  .ofMembers [
    ("username", .ofText balance.username.text),
    ("current_balance", ofDecimal balance.current),
    ("updated_at", ofInstant balance.updatedAt)]

/-- The balance of a JSON value. -/
def Balance.ofJson? (json : Json) : Option Balance := do
  match ← fields? fieldNames 0 json with
  | [username, current, updatedAt] =>
    return {
      username := ⟨← required username text?⟩
      current := ← required current decimal?
      updatedAt := ← required updatedAt instant? }
  | _ => none

/-! ## Events -/

/-- The value of a field of an event as JSON. -/
def Event.Value.toJson : Event.Value → Json
  | text s => .ofText s
  | flag b => .bool b
  | count n => .ofInt n

/-- An event as JSON: its level, its message and its fields. -/
def Event.toJson (event : Event) : Json :=
  .ofMembers ([("level", .ofText event.level.title), ("message", .ofText event.message)] ++
    event.fields.map fun (name, value) => (name, value.toJson))

end OrderDesk
