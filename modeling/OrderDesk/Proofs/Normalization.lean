import OrderDesk.Proofs.Alone

/-!
# Forms in normal form

Blanks around a user name and an asset symbol, and the case of the symbol, do not count: a form that
has been accepted stands for the request that its normal form stands for. The normal form is ASCII,
so that it has one byte for each character and nothing is left to trim or to write in uppercase; it
is accepted as it is. Whoever answers the service cannot tell from what it asks which of the two
forms has been sent.

## Main definitions

* `OrderDesk.OrderRequest.form` — the form in normal form that stands for a request.

## Main results

* `OrderDesk.OrderForm.check_form` — what has been accepted is accepted again, unchanged.
* `OrderDesk.Service.run_place_congr` — forms that are checked with the same result.
* `OrderDesk.Service.run_place_form` — a form and its normal form.
-/

set_option autoImplicit false

namespace OrderDesk

/-! ## Normal forms -/

/-- The **normal form** of all forms that stand for a request: the fields of the request as they
are. -/
def OrderRequest.form (request : OrderRequest) : OrderForm :=
  { username := request.username.text
    orderType := request.orderType
    assetId := request.assetId.text
    quantity := request.quantity
    orderPrice := request.orderPrice
    expiresAt := request.expiresAt }

/-- The uppercase of a letter or digit is an uppercase letter or the digit. -/
theorem Text.isUpper_or_isDigit_toUpper {c : Char} (h : c.isAlphanum = true) :
    c.toUpper.isUpper = true ∨ c.toUpper.isDigit = true :=
  ascii_forall
    (P := fun c => c.isAlphanum = true → c.toUpper.isUpper = true ∨ c.toUpper.isDigit = true)
    (by decide +kernel) (toNat_lt_of_isAlphanum h) h

/-- An asset symbol in uppercase has uppercase letters and digits only. -/
theorem Text.IsSymbol.isUpper_or_isDigit {s : String} (h : IsSymbol s) :
    ∀ c ∈ (Text.uppercase s).toList, c.isUpper = true ∨ c.isDigit = true := by
  intro upper hmem
  rw [uppercase_eq h.characters, String.toList_ofList] at hmem
  obtain ⟨c, hc, rfl⟩ := List.mem_map.1 hmem
  exact isUpper_or_isDigit_toUpper (h.characters c hc)

namespace OrderForm

variable {form : OrderForm} {now : Instant} {request : OrderRequest}

/-- The normal form of a correct form is correct. -/
theorem IsCorrect.normal (h : form.IsCorrect now) : form.request.form.IsCorrect now :=
  { username := by
      change Text.IsUsername (Text.trim (Text.trim form.username))
      rw [h.username.trim_eq]
      exact h.username
    assetId := by
      change Text.IsSymbol (Text.trim (Text.uppercase (Text.trim form.assetId)))
      rw [h.assetId.uppercase.1.trim_eq]
      exact h.assetId.uppercase.1
    quantity := h.quantity
    priced := h.priced
    price := h.price
    expires := h.expires
    expiresAt := h.expiresAt }

/-- The normal form of a correct form stands for the same request. -/
theorem IsCorrect.request_form (h : form.IsCorrect now) :
    form.request.form.request = form.request := by
  obtain ⟨hsymbol, hupper⟩ := h.assetId.uppercase
  change OrderRequest.mk ⟨Text.trim (Text.trim form.username)⟩ _
    ⟨Text.uppercase (Text.trim (Text.uppercase (Text.trim form.assetId)))⟩ _ _ _ = _
  rw [h.username.trim_eq, hsymbol.trim_eq, hupper]
  rfl

/-- **What has been accepted is accepted again**, and stands for the same request. -/
theorem check_form (h : form.check now = .ok request) : request.form.check now = .ok request := by
  obtain ⟨hcorrect, rfl⟩ := check_eq_ok_iff.1 h
  exact check_eq_ok_iff.2 ⟨hcorrect.normal, hcorrect.request_form.symm⟩

end OrderForm

/-! ## Serving the normal form -/

namespace Service

/-- Two forms that are checked with the same result, at the time at which they are, are **served
alike**, whatever the surroundings are and do. -/
theorem run_place_congr {σ : Type} {h : Handler σ} {s : σ} {form form' : OrderForm}
    (hcheck : form.check (h .clock s).1 = form'.check (h .clock s).1) :
    (place form).run h s = (place form').run h s := by
  have hclock : clock.run h s = (.ok (h .clock s).1, (h .clock s).2) := rfl
  unfold place
  rw [run_bind, run_bind, hclock]
  dsimp only
  rw [hcheck]

/-- **Normalization changes nothing twice.** A form that is accepted stands for a request whose
normal form is accepted as it is, at the same time. The user name is made of ASCII letters, digits,
underscores and hyphens, the asset symbol of ASCII uppercase letters and digits. Placing the order
of the normal form comes to the same end as placing the order of the form and leaves the same state
behind, in all surroundings in which the clock shows that time; these may fail, serve others in
between, or keep a journal.

**Proof sketch.** A user name is trimmed already, and so is a symbol, which has no other uppercase
once it is in uppercase. After its first reading of the clock the service looks at the request
only. -/
theorem run_place_form {form : OrderForm} {now : Instant} {request : OrderRequest}
    (hcheck : form.check now = .ok request) :
    request.form.check now = .ok request ∧
    (∀ c ∈ request.username.text.toList, c.isAlphanum = true ∨ c = '_' ∨ c = '-') ∧
    (∀ c ∈ request.assetId.text.toList, c.isUpper = true ∨ c.isDigit = true) ∧
    ∀ {σ : Type} (h : Handler σ) (s : σ), (h .clock s).1 = now →
      (place request.form).run h s = (place form).run h s := by
  have hagain := OrderForm.check_form hcheck
  obtain ⟨hcorrect, rfl⟩ := OrderForm.check_eq_ok_iff.1 hcheck
  refine ⟨hagain, hcorrect.username.characters, hcorrect.assetId.isUpper_or_isDigit, ?_⟩
  rintro σ h s rfl
  exact run_place_congr (hagain.trans hcheck.symm)

/-- Blanks that are not ASCII around the user name, and a symbol in mixed case: the order that is
placed is one of "bob-1" for "USDC", and so is that of the normal form. -/
theorem run_place_form_of_wide_blanks :
    let form : OrderForm :=
      { username := "\u3000bob-1\u0085", orderType := .marketSell, assetId := "\u00a0uSdC\n"
        quantity := 1.50, orderPrice := none, expiresAt := none }
    let request : OrderRequest :=
      { username := ⟨"bob-1"⟩, orderType := .marketSell, assetId := ⟨"USDC"⟩
        quantity := 1.50, orderPrice := none, expiresAt := none }
    let desk := (Desk.empty.putUser
      { username := ⟨"bob-1"⟩, role := .customer, isActive := true }).putAsset
        (Asset.listed "USDC" "Dollar" 1)
    let served (form : OrderForm) :=
      (place form).run (Desk.answerAt fun n => .small n) (desk, 0)
    form.check (Moment.small 0).now = .ok request ∧
      (served form).1.map (fun view => (view.username, view.assetId)) =
        .ok (⟨"bob-1"⟩, ⟨"USDC"⟩) ∧
      served request.form = served form := by
  intro form request desk served
  have hcheck : form.check (Moment.small 0).now = .ok request := by decide +kernel
  exact ⟨hcheck, by decide +kernel, (run_place_form hcheck).2.2.2 _ _ rfl⟩

end Service

end OrderDesk
