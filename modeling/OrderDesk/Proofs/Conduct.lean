import OrderDesk.Proofs.Call
import OrderDesk.Proofs.Version

/-!
# The conduct of a call

Whatever its surroundings answer, a call changes orders and money at most once. It stores a change
of the one order that it has loaded, or it commits the one order that it places, and it has changed
nothing when it ends with an error.

## Main definitions

* `OrderDesk.Progress` — what a call has loaded and what it has changed.
* `OrderDesk.conduct` — the contract of a call with its surroundings.
* `OrderDesk.Call.Ends` — how a call may end.

## Main results

* `OrderDesk.Call.keeps_conduct` — every call keeps the contract.
-/

set_option autoImplicit false

namespace OrderDesk

/-! ## Progress -/

/-- The change that a call has made. -/
inductive Effect where
  /-- The stored order, which was in the expected status, has been replaced. -/
  | replaced (changed : Order) (expected : Status)
  /-- The order has been stored together with its money. -/
  | settled (side : Side) (order : Order) (settlement : Settlement)

/-- The **progress** of a call. -/
structure Progress where
  /-- The order that has been loaded, with the order ID that was asked for. -/
  loaded : Option (OrderId × Order)
  /-- The change that has been made. -/
  effect : Option Effect

/-- The form asks for this order, at some time and price. -/
def OrderForm.Places (form : OrderForm) (order : Order) : Prop :=
  ∃ now request price idTime token,
    form.check now = .ok request ∧ Order.place request price now idTime token = .ok order

namespace Progress

/-- Nothing has been loaded or changed. -/
def start : Progress :=
  { loaded := none, effect := none }

/-- The progress after a request has been answered. -/
def after (p : Progress) : (request : Request) → request.Answer → Progress
  | .findOrder orderId, .ok (some order) => { p with loaded := some (orderId, order) }
  | .saveIfStatus changed expected, .ok _ => { p with effect := some (.replaced changed expected) }
  | .commit side order, .ok settlement => { p with effect := some (.settled side order settlement) }
  | _, _ => p

/-- What a call may ask. It loads an order or places one, and it does so at once. A change that it
stores is a move of the order that it has loaded, and it expects the status of that order. -/
def May (p : Progress) : Request → Prop
  | .findOrder _ => p = start
  | .saveIfStatus changed expected =>
    p.effect = none ∧ ∃ orderId order target now, p.loaded = some (orderId, order) ∧
      expected = order.status ∧ order.status.canMoveTo target = true ∧
      changed = order.withStatus target now
  | .commit side order =>
    p = start ∧ side = order.side ∧ order.status = .pending ∧ ∃ form : OrderForm, form.Places order
  | _ => True

end Progress

/-- The **conduct** of a call: whatever is answered, it asks only what it may. -/
def conduct : Contract Progress where
  may := Progress.May
  reply p request answer p' := p' = p.after request answer

/-- The progress of a change that has been stored: the loaded order, moved to a target. -/
def Progress.Moved (p : Progress) (orderId : String) (target : Status) (receipt : Receipt) : Prop :=
  ∃ order now, p.loaded = some (⟨orderId⟩, order) ∧ order.status.canMoveTo target = true ∧
    p.effect = some (.replaced (order.withStatus target now) order.status) ∧
    receipt = .order (order.withStatus target now).view

/-- The progress of an order that has been placed. -/
def Progress.Placed (p : Progress) (form : OrderForm) (receipt : Receipt) : Prop :=
  ∃ order settlement, form.Places order ∧
    p.effect = some (.settled order.side order settlement) ∧
    receipt = .order settlement.order.view

/-- How a call ends: with an error and without a change, or with the change that it asks for. -/
def Call.Ends : Call → Progress → Reply → Prop
  | _, p, .error _ => p.effect = none
  | place form, p, .ok receipt => p.Placed form receipt
  | cancel _ orderId, p, .ok receipt => p.Moved orderId .cancelled receipt
  | update orderId target _, p, .ok receipt => p.Moved orderId target receipt
  | order .., p, .ok _ | orders _, p, .ok _ => p.effect = none

/-! ## Steps -/

namespace Service

section Steps

variable {α β : Type} {p : Progress} {ends : Progress → Except (Failure ServiceError) α → Prop}

/-- What only looks something up is no progress. -/
theorem AsksOnly.keeps_conduct {x : Service α} (hx : AsksOnly Request.IsReading x)
    (h : ∀ r, ends p r) : Keeps conduct ends x p := by
  refine hx.keeps (fun request hr => ?_) h
  cases request with
  | findOrder | saveIfStatus | commit => exact hr.elim
  | clock | token | findUser | findAsset | findBalance | ordersOf | log =>
    exact ⟨trivial, fun _ _ h => h⟩

/-- A request that only looks something up is no progress, whatever is answered. -/
theorem ask_keeps {request : Request}
    {ends : Progress → Except (Failure ServiceError) request.Answer → Prop}
    (hr : request.IsReading) (h : ∀ answer, ends p (.ok answer)) :
    Keeps conduct ends (ask request) p := by
  refine keeps_ask.2 ?_
  cases request with
  | findOrder | saveIfStatus | commit => exact hr.elim
  | clock | token | findUser | findAsset | findBalance | ordersOf | log =>
    refine ⟨trivial, ?_⟩
    rintro answer _ rfl
    exact h answer

/-- A check asks nothing. -/
theorem ofExcept_keeps {ε : Type} {tell : ε → ServiceError} {r : Except ε α}
    (hok : ∀ a, r = .ok a → ends p (.ok a)) (herr : ∀ e, ends p (.error e)) :
    Keeps conduct ends (ofExcept tell r) p := by
  cases r with
  | ok a => exact hok a rfl
  | error e => exact herr _

/-- A cause is told without progress. -/
theorem fail_keeps {cause : Cause} (herr : ∀ e, ends p (.error e)) :
    Keeps conduct ends (fail cause) p := by
  unfold fail
  split
  · exact (keeps_bind _ _).2 (ask_keeps (by trivial) fun _ => herr _)
  · exact herr _

/-- An answer is taken, or its cause is told. -/
theorem ofAnswer_keeps {ε : Type} {cause : ε → Cause} {r : Except ε α}
    (hok : ∀ a, r = .ok a → ends p (.ok a)) (herr : ∀ e, ends p (.error e)) :
    Keeps conduct ends (ofAnswer cause r) p := by
  cases r with
  | ok a => exact hok a rfl
  | error e => exact fail_keeps herr

end Steps

/-- An order ID is kept as it is written. -/
theorem eq_of_field_orderId {orderId : String} {key : OrderId}
    (h : Field.orderId orderId = .ok key) : key = ⟨orderId⟩ := by
  unfold Field.orderId at h
  split at h
  · exact (Except.ok.inj h).symm
  · cases h

/-- Looking an order up is the first progress of a call. -/
theorem requireOrder_keeps {ends : Progress → Except (Failure ServiceError) Order → Prop}
    {orderId : OrderId}
    (hok : ∀ order, ends { Progress.start with loaded := some (orderId, order) } (.ok order))
    (herr : ∀ e, ends .start (.error e)) :
    Keeps conduct ends (requireOrder orderId) .start := by
  unfold requireOrder
  refine (keeps_bind _ _).2 (keeps_ask.2 ⟨rfl, ?_⟩)
  rintro answer _ rfl
  match answer with
  | .error e => exact (keeps_bind _ _).2 (ofAnswer_keeps (by simp) fun _ => herr _)
  | .ok none => exact herr _
  | .ok (some order) => exact hok order

/-- An order that a user may act on has been loaded under the order ID that was asked for. -/
theorem ownedOrder_keeps {ends : Progress → Except (Failure ServiceError) Order → Prop}
    {username orderId : String}
    (hok : ∀ order, ends { Progress.start with loaded := some (⟨orderId⟩, order) } (.ok order))
    (herr : ∀ p e, p.effect = none → ends p (.error e)) :
    Keeps conduct ends (ownedOrder username orderId) .start := by
  unfold ownedOrder
  refine (keeps_bind _ _).2 (ofExcept_keeps (fun key hkey => ?_) fun _ => herr _ _ rfl)
  obtain rfl := eq_of_field_orderId hkey
  refine (keeps_bind _ _).2 (AsksOnly.keeps_conduct
    ((requireUser_asksOnly username).mono fun _ => Request.IsPassive.isReading) fun r => ?_)
  cases r with
  | error e => exact herr _ _ rfl
  | ok actor =>
    refine (keeps_bind _ _).2 (requireOrder_keeps (fun order => ?_) fun _ => herr _ _ rfl)
    exact (keeps_bind _ _).2 (ofExcept_keeps (fun _ _ => hok order) fun _ => herr _ _ rfl)

/-- The order that an actor asks about has been loaded under the order ID that was asked for. -/
theorem orderFor_keeps {ends : Progress → Except (Failure ServiceError) Order → Prop}
    {actor : Actor} {orderId : String}
    (hok : ∀ order, ends { Progress.start with loaded := some (⟨orderId⟩, order) } (.ok order))
    (herr : ∀ p e, p.effect = none → ends p (.error e)) :
    Keeps conduct ends (orderFor actor orderId) .start := by
  cases actor with
  | user username => exact ownedOrder_keeps hok herr
  | system =>
    refine (keeps_bind _ _).2 (ofExcept_keeps (fun key hkey => ?_) fun _ => herr _ _ rfl)
    obtain rfl := eq_of_field_orderId hkey
    exact requireOrder_keeps hok fun _ => herr _ _ rfl

/-- A change of the loaded order is stored or refused. -/
theorem save_keeps {α : Type} {ends : Progress → Except (Failure ServiceError) α → Prop}
    {p : Progress} {changed : Order} {expected : Status} {rest : Unit → Service α}
    (hmay : p.May (.saveIfStatus changed expected))
    (hok : Keeps conduct ends (rest ()) { p with effect := some (.replaced changed expected) })
    (herr : ∀ e, ends p (.error e)) :
    Keeps conduct ends (do
      let answer ← ask (.saveIfStatus changed expected)
      rest (← ofAnswer Cause.order answer)) p := by
  refine (keeps_bind _ _).2 (keeps_ask.2 ⟨hmay, ?_⟩)
  rintro answer _ rfl
  match answer with
  | .error e => exact (keeps_bind _ _).2 (ofAnswer_keeps (by simp) herr)
  | .ok () => exact hok

/-- A new order is committed or refused. -/
theorem commit_keeps {ends : Progress → Except (Failure ServiceError) Settlement → Prop}
    {p : Progress} {order : Order} (hmay : p.May (.commit order.side order))
    (hok : ∀ settlement, ends
      { p with effect := some (.settled order.side order settlement) } (.ok settlement))
    (herr : ∀ e, ends p (.error e)) : Keeps conduct ends (commit order) p := by
  refine ⟨hmay, ?_⟩
  rintro answer _ rfl
  match answer with
  | .ok settlement => exact ⟨trivial, fun _ _ h => h ▸ hok settlement⟩
  | .error .sumOverflow => exact herr _
  | .error (.error e) =>
    refine (keeps_bind _ _).2 (ask_keeps (by trivial) fun _ => ?_)
    exact fail_keeps herr

/-! ## Calls -/

/-- A change that an actor is granted is a move of the table and changes nothing else. -/
theorem eq_withStatus_of_moved {actor : Actor} {order changed : Order} {target : Status}
    {now : Instant} (h : moved actor order target now = .ok changed) :
    order.status.canMoveTo target = true ∧ changed = order.withStatus target now := by
  unfold moved at h
  split at h
  · cases h
  · exact Order.eq_withStatus_of_moveTo h

/-- A placed order is the one of its form, committed on its own side. -/
theorem place_keeps (form : OrderForm) :
    Keeps conduct (fun p r => (Call.place form).Ends p (r.map fun view => .order view))
      (place form) .start := by
  unfold place
  rw [keeps_bind]
  refine ask_keeps trivial fun now => ?_
  dsimp only [proceed]
  rw [keeps_bind]
  refine ofExcept_keeps (fun request hcheck => ?_) fun _ => rfl
  refine (keeps_bind _ _).2 (AsksOnly.keeps_conduct
    ((effectivePrice_asksOnly request).mono fun _ => Request.IsPassive.isReading) fun r => ?_)
  cases r with
  | error e => exact rfl
  | ok price =>
    refine (keeps_bind _ _).2 (AsksOnly.keeps_conduct (AsksOnly.reporting (fun _ => trivial) _
      (checkPlacement_asksOnly _ _ _ _ _)) fun r => ?_)
    cases r with
    | error e => exact rfl
    | ok placement =>
      refine (keeps_bind _ _).2 (ask_keeps (by trivial) fun idTime => ?_)
      refine (keeps_bind _ _).2 (ask_keeps (by trivial) fun token => ?_)
      refine (keeps_bind _ _).2 (ofAnswer_keeps (fun order horder => ?_) fun _ => rfl)
      have hplaces : form.Places order := ⟨now, request, price, idTime, token, hcheck, horder⟩
      refine (keeps_bind _ _).2 (commit_keeps
        ⟨rfl, rfl, (Order.isNew_of_place horder).status, form, hplaces⟩ (fun settlement => ?_)
        fun _ => rfl)
      refine (keeps_bind _ _).2 (ask_keeps (by trivial) fun _ => ?_)
      exact ⟨order, settlement, hplaces, rfl, rfl⟩

/-- A cancellation that succeeds has moved the order that was asked for. -/
theorem cancel_keeps (username orderId : String) :
    Keeps conduct
      (fun p r => (Call.cancel username orderId).Ends p (r.map fun view => .order view))
      (cancel username orderId) .start := by
  unfold cancel checkCancellation
  rw [keeps_bind, keeps_bind]
  refine ownedOrder_keeps (fun order => ?_) fun p e he => he
  refine (keeps_bind _ _).2 (ofExcept_keeps (fun _ _ => ?_) fun _ => rfl)
  refine (keeps_bind _ _).2 (ask_keeps (by trivial) fun now => ?_)
  refine (keeps_bind _ _).2 (ofAnswer_keeps (fun changed hchanged => ?_) fun _ => rfl)
  obtain ⟨hmove, rfl⟩ := Order.eq_withStatus_of_moveTo hchanged
  refine save_keeps ⟨rfl, _, order, _, now, rfl, rfl, hmove, rfl⟩ ?_ fun _ => rfl
  refine (keeps_bind _ _).2 (ask_keeps (by trivial) fun _ => ?_)
  exact ⟨order, now, rfl, hmove, rfl, rfl⟩

/-- An update that succeeds has moved the order that was asked for. -/
theorem updateStatus_keeps (orderId : String) (target : Status) (actor : Actor) :
    Keeps conduct
      (fun p r => (Call.update orderId target actor).Ends p (r.map fun view => .order view))
      (updateStatus orderId target actor) .start := by
  unfold updateStatus
  refine (keeps_bind _ _).2 (orderFor_keeps (fun order => ?_) fun p e he => he)
  refine (keeps_bind _ _).2 (ask_keeps (by trivial) fun now => ?_)
  dsimp only [proceed]
  cases hchanged : moved actor order target now with
  | error e => exact (keeps_bind _ _).2 (ask_keeps (by trivial) fun _ => rfl)
  | ok changed =>
    obtain ⟨hmove, rfl⟩ := eq_withStatus_of_moved hchanged
    refine save_keeps ⟨rfl, _, order, _, now, rfl, rfl, hmove, rfl⟩ ?_ fun _ => rfl
    refine (keeps_bind _ _).2 (ask_keeps (by trivial) fun _ => ?_)
    exact ⟨order, now, rfl, hmove, rfl, rfl⟩

/-- A listing only looks something up. -/
theorem orders_asksOnly (defaultLimit : Nat) (query : ListingQuery) :
    AsksOnly Request.IsReading (orders defaultLimit query) := by
  refine ((checkListing_asksOnly _ _).mono fun _ => Request.IsPassive.isReading).bind fun user => ?_
  refine AsksOnly.bind (.ask trivial) fun answer => ?_
  refine AsksOnly.bind (.ofAnswer (fun _ => trivial) _ answer) fun found => ?_
  exact AsksOnly.bind (.ask trivial) fun _ => .pure _

/-- A service whose result is turned into a receipt. -/
theorem keeps_receipt {α : Type} {ends : Progress → Reply → Prop} {receipt : α → Receipt}
    {x : Service α} {p : Progress}
    (h : Keeps conduct (fun p r => ends p (r.map receipt)) x p) :
    Keeps conduct ends (do return receipt (← x)) p := by
  refine (keeps_bind _ _).2 (h.mono fun p r hr => ?_)
  cases r with
  | error e => exact hr
  | ok a => exact hr

end Service

/-- Every call keeps to its conduct and ends as it should, whatever its surroundings answer. -/
theorem Call.keeps_conduct (defaultLimit : Nat) (call : Call) :
    (call.program defaultLimit).Keeps conduct call.Ends .start := by
  cases call with
  | place form => exact Service.keeps_receipt (Service.place_keeps form)
  | cancel username orderId => exact Service.keeps_receipt (Service.cancel_keeps username orderId)
  | update orderId target actor =>
    exact Service.keeps_receipt (Service.updateStatus_keeps orderId target actor)
  | order username orderId =>
    refine Service.keeps_receipt ((Service.keeps_bind _ _).2 ?_)
    exact Service.ownedOrder_keeps (fun _ => rfl) fun _ _ he => he
  | orders query =>
    refine Service.keeps_receipt ((Service.orders_asksOnly defaultLimit query).keeps_conduct ?_)
    intro r
    cases r <;> rfl

end OrderDesk
