import OrderDesk.Proofs.Wire.Numbers
import OrderDesk.Proofs.Wire.Times
import OrderDesk.Proofs.Wire.Variation
import OrderDesk.Wire

/-!
# Records are read back

What the desk writes to the wire can be read from it: each of the seven records is read back from
its JSON text, whatever its texts, numbers, instants and lists are. Those who write the same fields
in another order, with further fields, or without the fields that are null, are understood alike.

## Main definitions

* `OrderDesk.OrderForm.IsWritten` and its neighbours — the records that have a written form.
* `OrderDesk.Wire.Kind` — the seven kinds of records.
* `OrderDesk.Wire.Kind.read?` — the record of a text.

## Main results

* `OrderDesk.OrderForm.reads` and its neighbours — each record is read from all variants of its
  JSON.
* `OrderDesk.Wire.Kind.reads`, `OrderDesk.Wire.Kind.isWritten_toJson` — the same for every kind.
* `OrderDesk.Wire.Kind.read?_of_varies` — records are read back from the wire.
-/

set_option autoImplicit false

namespace OrderDesk

open Json Wire

/-! ## Single values -/

/-- An instant is read back from its JSON. -/
theorem Wire.instant?_ofInstant {t : Instant} (ht : t.IsWritten) :
    instant? (ofInstant t) = some t := by
  have htext : text? (ofInstant t) = some t.text := rfl
  rw [instant?, htext, Option.bind_some, Instant.read?_text ht]

namespace Json.Shows

variable {field : Option Json}

/-- A text that must be there is read. -/
theorem text {s : String} (h : Shows (.ofText s) field) : Json.required field text? = some s :=
  h.scalar trivial rfl

/-- A truth value that must be there is read. -/
theorem bool {b : Bool} (h : Shows (.bool b) field) : Json.required field bool? = some b :=
  h.scalar trivial rfl

/-- A decimal that must be there is read. -/
theorem decimal {a : Decimal} (h : Shows (ofDecimal a) field) (ha : a.minusZero = false) :
    Json.required field decimal? = some a :=
  h.scalar trivial (Decimal.read?_text ha)

/-- An instant that must be there is read. -/
theorem instant {t : Instant} (h : Shows (ofInstant t) field) (ht : t.IsWritten) :
    Json.required field instant? = some t :=
  h.scalar trivial (instant?_ofInstant ht)

/-- A count is read. -/
theorem count {n : Nat} (h : Shows (.ofInt n) field) (hn : n < 2 ^ 64) :
    Json.required field nat64? = some n :=
  h.scalar trivial (nat64?_ofInt hn)

/-- An order type is read. -/
theorem orderType {t : OrderType} (h : Shows (.ofText t.name) field) :
    Json.required field orderType? = some t :=
  h.scalar trivial t.ofName?_name

/-- A side is read. -/
theorem side {s : Side} (h : Shows (.ofText s.name) field) : Json.required field side? = some s :=
  h.scalar trivial s.ofName?_name

/-- A status is read. -/
theorem status {s : Status} (h : Shows (.ofText s.name) field) :
    Json.required field status? = some s :=
  h.scalar trivial s.ofName?_name

/-- A role is read. -/
theorem role {r : Role} (h : Shows (.ofText r.name) field) : Json.required field role? = some r :=
  h.scalar trivial r.ofName?_name

/-- A category is read. -/
theorem category {c : AssetCategory} (h : Shows (.ofText c.name) field) :
    Json.required field category? = some c :=
  h.scalar trivial c.ofName?_name

/-- A decimal that may be missing is read. -/
theorem optionalDecimal {a : Option Decimal} (h : Shows (.ofOption ofDecimal a) field)
    (ha : ∀ b ∈ a, b.minusZero = false) : Json.optional field decimal? = some a :=
  h.optional (fun _ _ => trivial) fun b hb => Decimal.read?_text (ha b hb)

/-- An instant that may be missing is read. -/
theorem optionalInstant {t : Option Instant} (h : Shows (.ofOption ofInstant t) field)
    (ht : ∀ s ∈ t, s.IsWritten) : Json.optional field instant? = some t :=
  h.optional (fun _ _ => trivial) fun s hs => instant?_ofInstant (ht s hs)

/-- A status that may be missing is read. -/
theorem optionalStatus {s : Option Status}
    (h : Shows (.ofOption (fun s : Status => .ofText s.name) s) field) :
    Json.optional field status? = some s :=
  h.optional (fun _ _ => trivial) fun s _ => s.ofName?_name

/-- A limit that may be missing is read. -/
theorem optionalLimit {n : Option Int} (h : Shows (.ofOption .ofInt n) field)
    (hn : ∀ m ∈ n, -(2 ^ 63) ≤ m ∧ m < 2 ^ 63) : Json.optional field int64? = some n :=
  h.optional (fun _ _ => trivial) fun m hm => int64?_ofInt (hn m hm).1 (hn m hm).2

end Json.Shows

/-! ## Order forms -/

/-- An order form **has a written form** if its numbers and its instant have. -/
structure OrderForm.IsWritten (form : OrderForm) : Prop where
  quantity : form.quantity.minusZero = false
  orderPrice : ∀ a ∈ form.orderPrice, a.minusZero = false
  expiresAt : ∀ t ∈ form.expiresAt, t.IsWritten

/-- An order form is **read** from all variants of its JSON. -/
theorem OrderForm.reads {form : OrderForm} (h : form.IsWritten) :
    Reads OrderForm.ofJson? form.toJson form := by
  intro json hvaries
  obtain ⟨fields, hfields, hall⟩ :=
    @Varies.exists_fields OrderForm.fieldNames [_, _, _, _, _, _] json 2 hvaries (by decide) rfl
  obtain _ | ⟨husername, _ | ⟨horderType, _ | ⟨hassetId, _ | ⟨hquantity, _ | ⟨horderPrice,
    _ | ⟨hexpiresAt, _ | _⟩⟩⟩⟩⟩⟩ := hall
  rw [OrderForm.ofJson?, hfields]
  simp only [Option.bind_eq_bind, Option.bind_some, husername.text, horderType.orderType,
    hassetId.text, hquantity.decimal h.quantity, horderPrice.optionalDecimal h.orderPrice,
    hexpiresAt.optionalInstant h.expiresAt]
  rfl

/-! ## Orders and listings -/

/-- An order **has a written form** if its numbers and its instants have. -/
structure OrderView.IsWritten (o : OrderView) : Prop where
  quantity : o.quantity.minusZero = false
  orderPrice : ∀ a ∈ o.orderPrice, a.minusZero = false
  totalAmount : o.totalAmount.minusZero = false
  expiresAt : ∀ t ∈ o.expiresAt, t.IsWritten
  createdAt : o.createdAt.IsWritten
  updatedAt : o.updatedAt.IsWritten

/-- An order is **read** from all variants of its JSON. -/
theorem OrderView.reads {o : OrderView} (h : o.IsWritten) :
    Reads OrderView.ofJson? o.toJson o := by
  intro json hvaries
  obtain ⟨fields, hfields, hall⟩ :=
    @Varies.exists_fields OrderView.fieldNames [_, _, _, _, _, _, _, _, _, _, _, _] json 0 hvaries
      (by decide) rfl
  obtain _ | ⟨horderId, _ | ⟨husername, _ | ⟨horderType, _ | ⟨hside, _ | ⟨hassetId, _ | ⟨hquantity,
    _ | ⟨horderPrice, _ | ⟨htotalAmount, _ | ⟨hstatus, _ | ⟨hexpiresAt, _ | ⟨hcreatedAt,
      _ | ⟨hupdatedAt, _ | _⟩⟩⟩⟩⟩⟩⟩⟩⟩⟩⟩⟩ := hall
  rw [OrderView.ofJson?, hfields]
  simp only [Option.bind_eq_bind, Option.bind_some, horderId.text, husername.text,
    horderType.orderType, hside.side, hassetId.text, hquantity.decimal h.quantity,
    horderPrice.optionalDecimal h.orderPrice, htotalAmount.decimal h.totalAmount, hstatus.status,
    hexpiresAt.optionalInstant h.expiresAt, hcreatedAt.instant h.createdAt,
    hupdatedAt.instant h.updatedAt]
  rfl

/-- A listing query **has a written form** if its limit is a number of the machine. -/
structure ListingQuery.IsWritten (query : ListingQuery) : Prop where
  limit : ∀ n ∈ query.limit, -(2 ^ 63) ≤ n ∧ n < 2 ^ 63

/-- A listing query is **read** from all variants of its JSON. -/
theorem ListingQuery.reads {query : ListingQuery} (h : query.IsWritten) :
    Reads ListingQuery.ofJson? query.toJson query := by
  intro json hvaries
  obtain ⟨fields, hfields, hall⟩ :=
    @Varies.exists_fields ListingQuery.fieldNames [_, _, _] json 2 hvaries (by decide) rfl
  obtain _ | ⟨husername, _ | ⟨hstatus, _ | ⟨hlimit, _ | _⟩⟩⟩ := hall
  rw [ListingQuery.ofJson?, hfields]
  simp only [Option.bind_eq_bind, Option.bind_some, husername.text, hstatus.optionalStatus,
    hlimit.optionalLimit h.limit]
  rfl

/-- A listing **has a written form** if its orders have and its counts are numbers of the
machine. -/
structure OrderListing.IsWritten (listing : OrderListing) : Prop where
  orders : ∀ o ∈ listing.orders, o.IsWritten
  count : listing.count < 2 ^ 64
  limit : listing.limit < 2 ^ 64

/-- A list of orders is read from all variants of its JSON. -/
theorem OrderListing.reads_orders {orders : List OrderView} (h : ∀ o ∈ orders, o.IsWritten) :
    Reads OrderListing.orders? (.array (orders.map OrderView.toJson)) orders := by
  intro json hvaries
  obtain ⟨items, rfl, hitems⟩ := hvaries.of_array
  exact Reads.mapM (fun o ho => OrderView.reads (h o ho)) hitems

/-- A listing is **read** from all variants of its JSON. -/
theorem OrderListing.reads {listing : OrderListing} (h : listing.IsWritten) :
    Reads OrderListing.ofJson? listing.toJson listing := by
  intro json hvaries
  obtain ⟨fields, hfields, hall⟩ :=
    @Varies.exists_fields OrderListing.fieldNames [_, _, _] json 0 hvaries (by decide) rfl
  obtain _ | ⟨horders, _ | ⟨hcount, _ | ⟨hlimit, _ | _⟩⟩⟩ := hall
  rw [OrderListing.ofJson?, hfields]
  simp only [Option.bind_eq_bind, Option.bind_some,
    horders.required Json.noConfusion (OrderListing.reads_orders h.orders), hcount.count h.count,
    hlimit.count h.limit]
  rfl

/-! ## Users, assets and balances -/

/-- A user is **read** from all variants of its JSON. -/
theorem User.reads (user : User) : Reads User.ofJson? user.toJson user := by
  intro json hvaries
  obtain ⟨fields, hfields, hall⟩ :=
    @Varies.exists_fields User.fieldNames [_, _, _] json 0 hvaries (by decide) rfl
  obtain _ | ⟨husername, _ | ⟨hrole, _ | ⟨hisActive, _ | _⟩⟩⟩ := hall
  rw [User.ofJson?, hfields]
  simp only [Option.bind_eq_bind, Option.bind_some, husername.text, hrole.role, hisActive.bool]
  rfl

/-- An asset **has a written form** if its price has. -/
structure Asset.IsWritten (asset : Asset) : Prop where
  price : asset.price.minusZero = false

/-- An asset is **read** from all variants of its JSON. -/
theorem Asset.reads {asset : Asset} (h : asset.IsWritten) :
    Reads Asset.ofJson? asset.toJson asset := by
  intro json hvaries
  obtain ⟨fields, hfields, hall⟩ :=
    @Varies.exists_fields Asset.fieldNames [_, _, _, _, _] json 0 hvaries (by decide) rfl
  obtain _ | ⟨hassetId, _ | ⟨hname, _ | ⟨hprice, _ | ⟨hisActive, _ | ⟨hcategory, _ | _⟩⟩⟩⟩⟩ := hall
  rw [Asset.ofJson?, hfields]
  simp only [Option.bind_eq_bind, Option.bind_some, hassetId.text, hname.text,
    hprice.decimal h.price, hisActive.bool, hcategory.category]
  rfl

/-- A balance **has a written form** if its number and its instant have. -/
structure Balance.IsWritten (balance : Balance) : Prop where
  current : balance.current.minusZero = false
  updatedAt : balance.updatedAt.IsWritten

/-- A balance is **read** from all variants of its JSON. -/
theorem Balance.reads {balance : Balance} (h : balance.IsWritten) :
    Reads Balance.ofJson? balance.toJson balance := by
  intro json hvaries
  obtain ⟨fields, hfields, hall⟩ :=
    @Varies.exists_fields Balance.fieldNames [_, _, _] json 0 hvaries (by decide) rfl
  obtain _ | ⟨husername, _ | ⟨hcurrent, _ | ⟨hupdatedAt, _ | _⟩⟩⟩ := hall
  rw [Balance.ofJson?, hfields]
  simp only [Option.bind_eq_bind, Option.bind_some, husername.text, hcurrent.decimal h.current,
    hupdatedAt.instant h.updatedAt]
  rfl

/-! ## All records -/

namespace Wire

/-- The records on the wire. -/
inductive Kind where
  | orderForm
  | order
  | listingQuery
  | listing
  | user
  | asset
  | balance

namespace Kind

/-- The records of a kind. -/
abbrev Record : Kind → Type
  | orderForm => OrderForm
  | order => OrderView
  | listingQuery => ListingQuery
  | listing => OrderListing
  | user => User
  | asset => Asset
  | balance => Balance

/-- A record as JSON. -/
def toJson : (k : Kind) → k.Record → Json
  | orderForm => OrderForm.toJson
  | order => OrderView.toJson
  | listingQuery => ListingQuery.toJson
  | listing => OrderListing.toJson
  | user => User.toJson
  | asset => Asset.toJson
  | balance => Balance.toJson

/-- The record of a JSON value. -/
def ofJson? : (k : Kind) → Json → Option k.Record
  | orderForm => OrderForm.ofJson?
  | order => OrderView.ofJson?
  | listingQuery => ListingQuery.ofJson?
  | listing => OrderListing.ofJson?
  | user => User.ofJson?
  | asset => Asset.ofJson?
  | balance => Balance.ofJson?

/-- The record of a text. -/
def read? (k : Kind) (s : String) : Option k.Record :=
  (parse? s).bind k.ofJson?

/-- A record **has a written form**: no decimal is a zero with a minus sign, all instants are in
years of four digits, and whole numbers are numbers of the machine. -/
def IsWritten : (k : Kind) → k.Record → Prop
  | orderForm => OrderForm.IsWritten
  | order => OrderView.IsWritten
  | listingQuery => ListingQuery.IsWritten
  | listing => OrderListing.IsWritten
  | user => fun _ => True
  | asset => Asset.IsWritten
  | balance => Balance.IsWritten

variable {k : Kind} {r : k.Record}

/-- A record of any kind is **read** from all variants of its JSON. -/
theorem reads (h : k.IsWritten r) : Reads k.ofJson? (k.toJson r) r := by
  cases k with
  | orderForm => exact OrderForm.reads h
  | order => exact OrderView.reads h
  | listingQuery => exact ListingQuery.reads h
  | listing => exact OrderListing.reads h
  | user => exact User.reads r
  | asset => exact Asset.reads h
  | balance => exact Balance.reads h

/-- The JSON of every record has a written form. -/
theorem isWritten_toJson (k : Kind) (r : k.Record) : (k.toJson r).IsWritten := by
  have hdecimal (a : Decimal) : (ofDecimal a).IsWritten := isWritten_ofText a.text
  have hinstant (t : Instant) : (ofInstant t).IsWritten := isWritten_ofText t.text
  have horder (o : OrderView) : o.toJson.IsWritten := by
    simp [OrderView.toJson, hdecimal, hinstant]
  cases k with
  | orderForm => simp [toJson, OrderForm.toJson, hdecimal, hinstant]
  | order => exact horder r
  | listingQuery => simp [toJson, ListingQuery.toJson]
  | listing => simp [toJson, OrderListing.toJson, horder]
  | user => simp [toJson, User.toJson]
  | asset => simp [toJson, Asset.toJson, hdecimal]
  | balance => simp [toJson, Balance.toJson, hdecimal, hinstant]

/-- **Records are read back from the wire.** Every record that has a written form is read back from
its JSON text. It is also read from every text of the same fields that has them in another order,
that has further fields, or that does not have those that are null; such texts there are for all
values of JSON that have a written form.

**Proof sketch.** The text of a value is read as this value. Of a varied object the fields of the
record are found all the same, and each of them is read back: its text, its number, its instant. -/
theorem read?_of_varies (k : Kind) (r : k.Record) (h : k.IsWritten r) :
    k.read? (k.toJson r).text = some r ∧
      ∀ json, Varies (k.toJson r) json →
        (∀ s, parse? s = some json → k.read? s = some r) ∧
        (json.IsWritten → k.read? json.text = some r) := by
  have hread (s : String) (json : Json) (hparse : parse? s = some json)
      (hvaries : Varies (k.toJson r) json) : k.read? s = some r := by
    rw [read?, hparse, Option.bind_some, reads h json hvaries]
  refine ⟨hread _ _ (isWritten_toJson k r).parse?_text (.same _), fun json hvaries => ?_⟩
  exact ⟨fun s hparse => hread s json hparse hvaries,
    fun hwritten => hread _ json hwritten.parse?_text hvaries⟩

/-- A listing with an order in it is read from a text that has all fields in the reverse order, a
further field in the listing and in the order, and no price; there are escapes and trailing zeros in
it, a leap second, the first and the last year. -/
theorem read?_of_reversed_fields :
    let o : OrderView := {
      orderId := ⟨"ord\t\"1\"\\\u0001"⟩
      username := ⟨"zoé 😀"⟩
      orderType := .limitSell
      side := .sell
      assetId := ⟨""⟩
      quantity := (0.050 : Decimal).neg
      orderPrice := none
      totalAmount := 100.00
      status := .pending
      expiresAt := some ⟨1483228799, 1500000000, by decide⟩
      createdAt := ⟨-62167219200, 1, by decide⟩
      updatedAt := ⟨253402300799, 120000000, by decide⟩ }
    let listed : OrderListing := { orders := [o], count := 1, limit := 100 }
    let s := "\x7b\"page\":[null]," ++
      "\"limit\":100," ++
      "\"count\":1," ++
      "\"orders\":[\x7b\"note\":true," ++
      "\"updated_at\":\"9999-12-31T23:59:59.120Z\"," ++
      "\"created_at\":\"0000-01-01T00:00:00.000000001Z\"," ++
      "\"expires_at\":\"2016-12-31T23:59:60.500Z\"," ++
      "\"status\":\"PENDING\"," ++
      "\"total_amount\":\"100.00\"," ++
      "\"quantity\":\"-0.050\"," ++
      "\"asset_id\":\"\"," ++
      "\"side\":\"SELL\"," ++
      "\"order_type\":\"LIMIT_SELL\"," ++
      "\"username\":\"zoé 😀\"," ++
      "\"order_id\":\"ord\\t\\\"1\\\"\\\\\\u0001\"\x7d]\x7d"
    listing.IsWritten listed ∧ listing.read? (listing.toJson listed).text = some listed ∧
      listing.read? s = some listed := by
  intro o listed s
  have ho : o.IsWritten := by
    refine ⟨rfl, ?_, rfl, ?_, ?_, ?_⟩
    · exact fun a ha => by cases ha
    · intro t ht
      obtain rfl := Option.some.inj ht
      decide +kernel
    · decide +kernel
    · decide +kernel
  have hlisted : listing.IsWritten listed := by
    refine ⟨fun o' ho' => ?_, by decide, by decide⟩
    obtain rfl := List.mem_singleton.1 ho'
    exact ho
  let order : Json := object ([
    (some "order_id", .ofText o.orderId.text),
    (some "username", .ofText o.username.text),
    (some "order_type", .ofText o.orderType.name),
    (some "side", .ofText o.side.name),
    (some "asset_id", .ofText o.assetId.text),
    (some "quantity", ofDecimal o.quantity),
    (some "total_amount", ofDecimal o.totalAmount),
    (some "status", .ofText o.status.name),
    (some "expires_at", .ofOption ofInstant o.expiresAt),
    (some "created_at", ofInstant o.createdAt),
    (some "updated_at", ofInstant o.updatedAt)] ++ [(some "note", Json.bool true)]).reverse
  have horder : Varies o.toJson order := by
    refine .object ?_ (by decide) (List.reverse_perm _)
    exact .keep (.same _) <| .keep (.same _) <| .keep (.same _) <| .keep (.same _) <|
      .keep (.same _) <| .keep (.same _) <| .drop <| .keep (.same _) <| .keep (.same _) <|
      .keep (.same _) <| .keep (.same _) <| .keep (.same _) .nil
  let json : Json := object ([
    (some "orders", array [order]),
    (some "count", .ofInt 1),
    (some "limit", .ofInt 100)] ++ [(some "page", array [Json.null])]).reverse
  have hjson : Varies (listing.toJson listed) json := by
    refine .object ?_ (by decide) (List.reverse_perm _)
    exact .keep (.array (.cons horder .nil)) <| .keep (.same _) <| .keep (.same _) .nil
  have hwritten : json.IsWritten := by
    simp [json, order, ofDecimal, ofInstant, IsWritten.null]
  have hread := read?_of_varies listing listed hlisted
  refine ⟨hlisted, hread.1, ?_⟩
  rw [← show json.text = s by decide +kernel]
  exact (hread.2 json hjson).2 hwritten

end Kind

end Wire

end OrderDesk
