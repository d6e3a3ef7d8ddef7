import OrderDesk.Proofs.Precision

/-!
# What orders are valued at

An order is valued at its limit price, or at the price that its asset had when it was asked for. The
value is their product with the quantity, rounded if it does not fit. At a limit price it always
fits. At a market price it may not, and an order that buys may then be accepted that is worth
slightly less than the least value.

## Main definitions

* `OrderDesk.Request.quote?` — the market price that an answer quotes.
* `OrderDesk.Order.IsValuedAt` — an order is worth what its quantity is at a price.
* `OrderDesk.Service.valuing` — the contract by which only orders are committed that are sound and
  valued at a price that is known.

## Main results

* `OrderDesk.Rules.orderValue_eq_ok_iff_of_isBuy` — which orders that buy are worth enough.
* `OrderDesk.Call.keeps_valuing` — every call keeps the contract.
-/

set_option autoImplicit false

namespace OrderDesk

/-! ## The least value -/

/-- An order that buys is worth enough exactly if its exact value comes within half a unit of the
last of the 28 places of the least value. -/
theorem Rules.orderValue_eq_ok_iff_of_isBuy {orderType : OrderType} {quantity price : Decimal}
    (hbuy : orderType.isBuy = true) (hquantity : 0 ≤ quantity.coefficient)
    (hprice : 0 < price.value) (hrange : quantity.product? price ≠ none) :
    orderValue orderType quantity (some price) = .ok () ↔
      1 - 1 / (2 * 10 ^ 28) ≤ quantity.value * price.value := by
  obtain ⟨value, hvalue⟩ := Option.ne_none_iff_exists'.1 hrange
  have hnonneg := Decimal.value_nonneg.1 hprice.le
  rw [orderValue_eq_ok_iff (notional_eq_ok_iff.2 hvalue),
    ← Decimal.one_le_value_iff_of_product? hquantity hnonneg hvalue]
  simp [hbuy]

/-! ## Quotes -/

/-- The market price that an answer **quotes**, with its asset. -/
def Request.quote? : (request : Request) → request.Answer → Option (AssetId × Decimal)
  | findAsset assetId, .ok (some asset) => some (assetId, asset.price)
  | _, _ => none

/-- A note is taken of a market price that is quoted. -/
def Request.noteQuote (quotes : List (AssetId × Decimal)) (request : Request)
    (answer : request.Answer) : List (AssetId × Decimal) :=
  quotes ++ (request.quote? answer).toList

/-- The order **is valued** at a price: its limit price, or a market price of its asset that has
been quoted. -/
structure Order.IsValuedAt (quotes : List (AssetId × Decimal)) (order : Order) (price : Decimal) :
    Prop where
  known : order.orderPrice = some price ∨
    order.orderPrice = none ∧ (order.assetId, price) ∈ quotes
  positive : 0 < price.value
  notional : Rules.notional order.quantity price = .ok order.totalAmount

namespace Order.IsValuedAt

variable {quotes more : List (AssetId × Decimal)} {order changed : Order} {price : Decimal}

/-- What has been quoted stays quoted. -/
theorem mono (h : order.IsValuedAt quotes price) (hmore : quotes ⊆ more) :
    order.IsValuedAt more price :=
  { h with known := h.known.imp id fun ⟨hnone, hmem⟩ => ⟨hnone, hmore hmem⟩ }

/-- An order on the same terms is valued at the same price. -/
theorem of_sameTerms (h : order.IsValuedAt quotes price) (hterms : SameTerms order changed) :
    changed.IsValuedAt quotes price where
  known := by
    rw [hterms.orderPrice, hterms.assetId]
    exact h.known
  positive := h.positive
  notional := by
    rw [hterms.quantity, hterms.totalAmount]
    exact h.notional

/-- A sound order that buys is worth the least value, up to half a unit of the last of the 28
places. -/
theorem le_value (h : order.IsValuedAt quotes price) (hsound : order.IsSound)
    (hbuy : order.side = .buy) :
    1 - 1 / (2 * 10 ^ 28) ≤ order.quantity.value * price.value :=
  (Decimal.one_le_value_iff_of_product? hsound.quantity.nonneg
    (Decimal.value_nonneg.1 h.positive.le) (Rules.notional_eq_ok_iff.1 h.notional)).1
    (hsound.worth hbuy)

end Order.IsValuedAt

/-- A new order that is to be committed is sound and valued at a price that is known. -/
def Request.IsValued (quotes : List (AssetId × Decimal)) : Request → Prop
  | commit side order => side = order.side ∧ order.IsSound ∧ ∃ price, order.IsValuedAt quotes price
  | clock | token | findUser _ | findAsset _ | findBalance _ | findOrder _ | ordersOf ..
  | saveIfStatus .. | log _ => True

/-- What is no commit is not valued. -/
theorem Request.isValued_of_ne_commit {request : Request}
    (h : ∀ side order, request ≠ .commit side order) (quotes : List (AssetId × Decimal)) :
    request.IsValued quotes := by
  cases request with
  | commit side order => exact (h side order rfl).elim
  | clock | token | findUser | findAsset | findBalance | findOrder | ordersOf | saveIfStatus
  | log => trivial

/-- What has been quoted stays quoted. -/
theorem Request.IsValued.mono {quotes more : List (AssetId × Decimal)} {request : Request}
    (h : request.IsValued quotes) (hmore : quotes ⊆ more) : request.IsValued more := by
  cases request with
  | commit side order =>
    obtain ⟨hside, hsound, price, hvalued⟩ := h
    exact ⟨hside, hsound, price, hvalued.mono hmore⟩
  | clock | token | findUser | findAsset | findBalance | findOrder | ordersOf | saveIfStatus
  | log => trivial

/-- The contract that notes the market prices that are quoted, and by which only orders are
committed that are sound and valued at a price that is known. -/
def valuing : Contract (List (AssetId × Decimal)) :=
  .recording Request.IsValued Request.noteQuote

namespace Service

variable {α : Type} {P : Request → Prop} {quotes known : List (AssetId × Decimal)}

/-- What has been quoted stays quoted. -/
theorem keeps_valuing_of_yields {Q : α → Prop} {x : Service α} (hx : Yields P Q x)
    (hP : ∀ quotes request, known ⊆ quotes → P request → request.IsValued quotes)
    (hknown : known ⊆ quotes) :
    Keeps valuing (fun quotes r => known ⊆ quotes ∧ ∀ a, r = .ok a → Q a) x quotes :=
  Program.Keeps.recording hx.keeps hP
    (fun _ _ _ h => List.Subset.trans h (List.subset_append_left _ _)) hknown

/-- Whoever asks for no commit keeps the contract. -/
theorem keeps_valuing_of_ne_commit {x : Service α}
    (hx : AsksOnly (fun request => ∀ side order, request ≠ .commit side order) x) :
    Keeps valuing (fun _ _ => True) x quotes :=
  (keeps_valuing_of_yields hx.yields (fun _ _ _ h => Request.isValued_of_ne_commit h _)
    (List.Subset.refl quotes)).mono fun _ _ _ => trivial

/-- Whoever looks an asset up has its price quoted. -/
theorem keeps_valuing_requireAsset (assetId : AssetId) :
    Keeps valuing (fun quotes r => ∀ asset, r = .ok asset → (assetId, asset.price) ∈ quotes)
      (requireAsset assetId) quotes := by
  unfold requireAsset
  refine keeps_ask_bind.2 ⟨trivial, ?_⟩
  rintro answer _ rfl
  cases answer with
  | ok found =>
    cases found with
    | none => exact nofun
    | some asset =>
      rintro _ ⟨⟩
      exact List.mem_append_right _ (List.mem_singleton_self _)
  | error e =>
    have hnever (next : Option Asset → Service Asset) :
        Yields Request.IsReading (fun _ => False) (fail (.lookup e) >>= next) :=
      (Yields.fail (Q := fun _ => False) (fun _ => trivial) _).bind fun _ h => h.elim
    refine (keeps_valuing_of_yields (hnever _)
      (fun quotes _ _ h => Request.isValued_of_ne_commit h.ne_commit quotes)
      (List.Subset.refl _)).mono ?_
    rintro quotes r ⟨-, hr⟩ asset rfl
    exact (hr asset rfl).elim

/-- The price of an order is its limit price, or a positive price of its asset that has been
quoted. -/
theorem keeps_valuing_effectivePrice (request : OrderRequest) :
    Keeps valuing (fun quotes r => ∀ price, r = .ok price →
        request.orderPrice = some price ∨
          request.orderPrice = none ∧ (request.assetId, price) ∈ quotes ∧ 0 < price.value)
      (effectivePrice request) quotes := by
  unfold effectivePrice
  cases request.orderPrice with
  | some limit =>
    rintro price ⟨⟩
    exact .inl rfl
  | none =>
    refine (keeps_bind _ _).2 ((keeps_valuing_requireAsset request.assetId).mono ?_)
    intro quotes r hquoted
    cases r with
    | error e => exact nofun
    | ok asset =>
      show Keeps valuing _ (if asset.price ≤ Decimal.zero then _ else _) quotes
      split
      · exact nofun
      · next hpositive =>
        rintro price ⟨⟩
        rw [Field.le_zero_iff, not_le] at hpositive
        exact .inr ⟨rfl, hquoted asset rfl, hpositive⟩

/-- An order that is placed at a price that is known is sound and valued at this price. -/
theorem isValued_of_place {form : OrderForm} {now idTime : Instant} {token : Uuid} {price : Decimal}
    {order : Order} (hform : form.IsCorrect now)
    (hprice : form.orderPrice = some price ∨
      form.orderPrice = none ∧ (form.request.assetId, price) ∈ quotes ∧ 0 < price.value)
    (hworth : Rules.orderValue form.orderType form.quantity (some price) = .ok ())
    (h : Order.place form.request price now idTime token = .ok order) :
    (Request.commit order.side order).IsValued quotes := by
  have hnew := Order.isNew_of_place h
  have hpositive : 0 < price.value := by
    rcases hprice with hlimit | ⟨-, -, hpositive⟩
    · exact (hform.price price hlimit).range.1
    · exact hpositive
  have hsame : ∀ limit, form.orderPrice = some limit → price = limit := by
    intro limit hlimit
    rcases hprice with hsome | ⟨hnone, -⟩
    · exact Option.some.inj (hsome.symm.trans hlimit)
    · cases hnone.symm.trans hlimit
  refine ⟨rfl, Order.isSound_of_place hform hsame (fun _ => hpositive) hworth h, price, ?_⟩
  exact
    { known := by
        rw [hnew.orderPrice, hnew.assetId]
        exact hprice.imp id fun ⟨hnone, hquoted, _⟩ => ⟨hnone, hquoted⟩
      positive := hpositive
      notional := hnew.quantity ▸ hnew.totalAmount }

/-- Whoever places an order commits one that is sound and valued at a price that is known.

**Proof sketch.** What comes before the price is a reading of the clock, and what comes after it
takes no notice of quotes: the order is made at the price that was found. -/
theorem keeps_valuing_place (form : OrderForm) :
    Keeps valuing (fun _ _ => True) (place form) quotes := by
  rw [place_eq_placeAt]
  refine keeps_ask_bind.2 ⟨trivial, ?_⟩
  rintro now _ rfl
  generalize hcheck : form.check now = checked
  refine (keeps_bind _ _).2 ?_
  cases checked with
  | error e => trivial
  | ok request =>
    obtain ⟨hcorrect, rfl⟩ := OrderForm.check_eq_ok_iff.1 hcheck
    refine (keeps_bind _ _).2 ((keeps_valuing_effectivePrice _).mono ?_)
    intro known r hprice
    cases r with
    | error e => trivial
    | ok price =>
      have hrest : AsksOnly (fun asked => ∀ quotes, known ⊆ quotes → asked.IsValued quotes)
          (placeAt now form.request price) := by
        refine placeAt_asksOnly_of
          (fun _ h _ _ => Request.isValued_of_ne_commit h.isReading.ne_commit _)
          (fun _ _ => trivial) fun order idTime token hworth hplace quotes hknown => ?_
        exact isValued_of_place hcorrect
          ((hprice price rfl).imp id fun ⟨hnone, hquoted, h⟩ => ⟨hnone, hknown hquoted, h⟩)
          hworth hplace
      exact (keeps_valuing_of_yields hrest.yields (fun quotes _ hknown h => h quotes hknown)
        (List.Subset.refl known)).mono fun _ _ _ => trivial

end Service

/-- **Valued orders.** Every call commits only orders that are sound and valued at a price that is
known, whatever it is answered. -/
theorem Call.keeps_valuing (defaultLimit : Nat) (call : Call) :
    (call.program defaultLimit).Keeps valuing (fun _ _ => True) [] := by
  suffices h : Service.Keeps valuing (fun _ _ => True) (call.service defaultLimit) [] from h
  cases call with
  | place form =>
    refine (Service.keeps_bind _ _).2 ((Service.keeps_valuing_place form).mono ?_)
    intro quotes r _
    cases r <;> trivial
  | cancel | update | order | orders =>
    exact Service.keeps_valuing_of_ne_commit (asksOnly_ne_commit defaultLimit fun _ => nofun)

end OrderDesk
