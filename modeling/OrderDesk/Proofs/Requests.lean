import OrderDesk.Proofs.Soundness
import OrderDesk.Proofs.Conduct

/-!
# What calls ask of the orders

Only a call that places an order asks for a commit, and the order that it asks for is sound,
whatever it has been answered before. A change of status that is asked for on behalf of a user is
always a cancellation of an order that users may cancel.

## Main definitions

* `OrderDesk.Service.Yields` — a service asks requests of one kind and gives values of one kind.
* `OrderDesk.Request.IsWithin` — a request finds and stores certain orders only.
* `OrderDesk.Service.placeAt` — placing an order from where its price is known.
* `OrderDesk.Call.MayAsk` — what a call may ask.

## Main results

* `OrderDesk.Service.place_asksOnly`, `OrderDesk.Service.cancel_asksOnly`,
  `OrderDesk.Service.updateStatus_asksOnly` — what the services ask.
* `OrderDesk.Call.asksOnly_mayAsk` — the same of every call.
-/

set_option autoImplicit false

namespace OrderDesk

namespace Service

/-! ## Values of one kind -/

/-- The service asks requests of one kind and gives values of one kind, whatever is answered. -/
structure Yields {α : Type} (P : Request → Prop) (Q : α → Prop) (x : Service α) : Prop where
  keeps : Keeps (only P) (fun _ r => ∀ a, r = .ok a → Q a) x ()

section Yields

variable {α β : Type} {P : Request → Prop} {Q R : α → Prop}

/-- A service that asks requests of one kind gives some values. -/
theorem AsksOnly.yields {x : Service α} (h : AsksOnly P x) : Yields P (fun _ => True) x :=
  ⟨Keeps.mono h fun _ _ _ _ _ => trivial⟩

/-- A service that gives values of one kind asks requests of one kind. -/
theorem Yields.asksOnly {x : Service α} (h : Yields P Q x) : AsksOnly P x :=
  Keeps.mono h.keeps fun _ _ _ => trivial

/-- One step after another. -/
theorem Yields.bind {S : β → Prop} {x : Service α} {f : α → Service β} (hx : Yields P Q x)
    (hf : ∀ a, Q a → Yields P S (f a)) : Yields P S (x >>= f) := by
  refine ⟨(keeps_bind x f).2 (Keeps.mono hx.keeps ?_)⟩
  rintro ⟨⟩ r hr
  cases r with
  | ok a => exact (hf a (hr a rfl)).keeps
  | error e => exact nofun

/-- A value at once. -/
theorem Yields.pure {a : α} (h : Q a) : Yields P Q (Pure.pure a) := by
  refine ⟨?_⟩
  rintro _ ⟨⟩
  exact h

/-- A failure at once. -/
theorem Yields.refuse (e : ServiceError) : Yields P Q (Service.refuse e) :=
  ⟨nofun⟩

/-- A step that is refused under a condition. -/
theorem Yields.guarded {c : Prop} [Decidable c] (e : ServiceError) {rest : Unit → Service α}
    (h : ¬c → Yields P Q (rest ())) :
    Yields P Q (if c then (do let r ← Service.refuse e; rest r) else rest ()) := by
  split
  · exact (Yields.refuse (Q := fun _ => False) e).bind fun _ h => h.elim
  · next hc => exact h hc

/-- A value that is there, or a failure. -/
theorem Yields.ofExcept {ε : Type} (tell : ε → ServiceError) (r : Except ε α) :
    Yields P (fun a => r = .ok a) (Service.ofExcept tell r) := by
  cases r with
  | ok a => exact Yields.pure rfl
  | error e => exact Yields.refuse _

/-- A cause is told; an outage is reported before. -/
theorem Yields.fail (hlog : ∀ event, P (.log event)) (cause : Cause) :
    Yields P Q (Service.fail cause) := by
  unfold Service.fail
  split
  · exact (AsksOnly.ask (hlog _)).yields.bind fun _ _ => .refuse _
  · exact Yields.refuse _

/-- An answer that is there, or its cause. -/
theorem Yields.ofAnswer {ε : Type} (hlog : ∀ event, P (.log event)) (cause : ε → Cause)
    (r : Except ε α) : Yields P (fun a => r = .ok a) (Service.ofAnswer cause r) := by
  cases r with
  | ok a => exact Yields.pure rfl
  | error e => exact Yields.fail hlog _

/-- A report of an error adds a log entry to what a service asks. -/
theorem Yields.reporting (hlog : ∀ event, P (.log event)) (event : ServiceError → Event)
    {x : Service α} (hx : Yields P Q x) : Yields P Q (Service.reporting event x) := by
  refine ⟨(Program.keeps_andThen (ExceptT.run x) _ ()).2 (Program.Keeps.mono hx.keeps ?_)⟩
  rintro ⟨⟩ r hr
  match r with
  | .ok a => exact hr
  | .error (.error e) => exact ⟨hlog _, fun _ _ _ => nofun⟩
  | .error .sumOverflow => exact nofun

end Yields

/-! ## Placing -/

section Placing

variable {P : Request → Prop}

/-- The price of an order is its limit price, or it is positive. -/
theorem effectivePrice_yields (hP : ∀ request, request.IsPassive → P request)
    (request : OrderRequest) :
    Yields P (fun price => (∀ limit, request.orderPrice = some limit → price = limit) ∧
      (request.orderPrice = none → 0 < price.value)) (effectivePrice request) := by
  unfold effectivePrice
  cases request.orderPrice with
  | some limit => exact Yields.pure ⟨fun _ h => Option.some.inj h, nofun⟩
  | none =>
    refine Yields.bind ((requireAsset_asksOnly request.assetId).mono hP).yields fun asset _ => ?_
    refine .guarded _ fun hpositive => .pure ⟨nofun, fun _ => ?_⟩
    rwa [Field.le_zero_iff, not_le] at hpositive

/-- A commit is asked for, and what has become of it is reported. -/
theorem commit_asksOnly {order : Order} (hcommit : P (.commit order.side order))
    (hlog : ∀ event, P (.log event)) : AsksOnly P (commit order) := by
  refine ⟨hcommit, ?_⟩
  rintro answer _ -
  match answer with
  | .ok settlement => exact ⟨hlog _, fun _ _ _ => trivial⟩
  | .error .sumOverflow => exact trivial
  | .error (.error e) => exact AsksOnly.bind (.ask (hlog _)) fun _ => .fail hlog _

/-- An order that has been checked is worth enough if it buys. -/
theorem checkPlacement_yields (hP : ∀ request, request.IsPassive → P request) (username : Username)
    (hbalance : P (.findBalance username.text)) (assetId : AssetId) (orderType : OrderType)
    (quantity price : Decimal) :
    Yields P (fun _ => Rules.orderValue orderType quantity (some price) = .ok ())
      (checkPlacement username assetId orderType quantity price) := by
  have hlog : ∀ event, P (.log event) := fun _ => hP _ trivial
  refine ((requireUser_asksOnly _).mono hP).yields.bind fun user _ => ?_
  refine .guarded _ fun _ => ?_
  refine ((requireAsset_asksOnly _).mono hP).yields.bind fun asset _ => ?_
  refine .guarded _ fun _ => ?_
  refine (Yields.ofExcept _ _).bind fun value _ => ?_
  refine (Yields.ofExcept _ _).bind fun _ hworth => ?_
  refine (AsksOnly.ask hbalance).yields.bind fun answer _ => ?_
  refine (AsksOnly.ofAnswer hlog _ answer).yields.bind fun balance _ => ?_
  exact .guarded _ fun _ => .pure hworth

end Placing

end Service

/-! ## Orders that are asked for -/

/-- The request is **within** bounds: the only order that it looks up on its own is one of these,
and it stores nothing but new orders and changes of these kinds. -/
def Request.IsWithin (found : OrderId → Prop) (new : Order → Prop)
    (changed : Order → Status → Prop) : Request → Prop
  | findOrder orderId => found orderId
  | commit _ order => new order
  | saveIfStatus order expected => changed order expected
  | clock | token | findUser _ | findAsset _ | findBalance _ | ordersOf .. | log _ => True

/-- A request that looks up anything but a single order is within all bounds. -/
theorem Request.IsReading.isWithin {request : Request} (h : request.IsReading)
    (found : OrderId → Prop) (new : Order → Prop) (changed : Order → Status → Prop) :
    request.IsWithin found new changed := by
  cases request <;> first | exact h.elim | trivial

/-- A change that a user may ask for: an order that users may cancel is cancelled. -/
def Order.IsUserCancellation (changed : Order) (expected : Status) : Prop :=
  changed.status = .cancelled ∧ expected.canUserCancel = true

/-- A cancellation that is authorized on behalf of a user is one that users may ask for. -/
theorem Status.canUserCancel_of_authorize {s : Status} {bySystem : Bool} {u : Unit}
    (h : s.authorize .cancelled true bySystem = .ok u) : s.canUserCancel = true := by
  unfold authorize at h
  split at h
  · cases h
  rw [if_neg (by simp), if_neg (by simp)] at h
  split at h
  · cases h
  · next hallowed => simpa using hallowed

/-- An order that is cancelled on behalf of a user is one that users may cancel. -/
theorem Order.isUserCancellation_of_moveTo {order changed : Order} {bySystem : Bool} {now : Instant}
    (h : order.moveTo .cancelled true bySystem now = .ok changed) :
    changed.IsUserCancellation order.status := by
  unfold moveTo at h
  split at h
  · next hauthorized =>
    cases h
    exact ⟨rfl, Status.canUserCancel_of_authorize hauthorized⟩
  · cases h

namespace Service

/-- A user is granted nothing but a cancellation that users may ask for. -/
theorem isUserCancellation_of_moved {username : String} {order changed : Order} {target : Status}
    {now : Instant} (h : moved (.user username) order target now = .ok changed) :
    changed.IsUserCancellation order.status := by
  unfold moved at h
  split at h
  · cases h
  · next hopen =>
    have hmove := (Order.eq_withStatus_of_moveTo h).1
    obtain rfl : target = .cancelled := by_contra fun hne => hopen ⟨rfl, hne, hmove⟩
    exact Order.isUserCancellation_of_moveTo h

/-! ## Placing -/

/-- Placing an order from where its price is known. -/
def placeAt (now : Instant) (request : OrderRequest) (price : Decimal) : Service OrderView := do
  let _ ← reporting (.orderRejected request.username request.assetId request.orderType)
    (checkPlacement request.username request.assetId request.orderType request.quantity price)
  let idTime ← clock
  let token ← token
  let order ← ofAnswer Cause.order (Order.place request price now idTime token)
  let settlement ← commit order
  log (.orderCreated settlement.order settlement.balance)
  return settlement.order.view

/-- Placing an order is pricing it, and going on from there. -/
theorem place_eq_placeAt (form : OrderForm) :
    place form = (do
      let now ← clock
      let request ← field (form.check now)
      let price ← effectivePrice request
      placeAt now request price) :=
  rfl

/-- Whoever places an order that is priced asks about neither orders nor money, but for the balance
of the user whom the form names and the commit of the order that is made at this price. -/
theorem placeAt_asksOnly_of {P : Request → Prop} {form : OrderForm} {now : Instant}
    {price : Decimal} (hpassive : ∀ request, request.IsPassive → P request)
    (hbalance : P (.findBalance (Text.trim form.username)))
    (hcommit : ∀ order idTime token,
      Rules.orderValue form.orderType form.quantity (some price) = .ok () →
      Order.place form.request price now idTime token = .ok order → P (.commit order.side order)) :
    AsksOnly P (placeAt now form.request price) := by
  have hlog : ∀ event, P (.log event) := fun _ => hpassive _ trivial
  suffices h : Yields P (fun _ => True) (placeAt now form.request price) from h.asksOnly
  unfold placeAt
  refine (Yields.reporting hlog _ (checkPlacement_yields hpassive _ hbalance _ _ _ _)).bind
    fun placement hworth => ?_
  refine (AsksOnly.ask (hpassive .clock trivial)).yields.bind fun idTime _ => ?_
  refine (AsksOnly.ask (hpassive .token trivial)).yields.bind fun token _ => ?_
  refine (Yields.ofAnswer hlog _ _).bind fun order hplace => ?_
  refine (commit_asksOnly (hcommit order idTime token hworth hplace) hlog).yields.bind
    fun settlement _ => ?_
  exact (AsksOnly.ask (hlog _)).yields.bind fun _ _ => .pure trivial

/-- Whoever places an order asks about neither orders nor money, but for the balance of the user
whom the form names and the commit of a sound order that the form asks for, whose value has no minus
sign. -/
theorem place_asksOnly_of {P : Request → Prop} (form : OrderForm)
    (hpassive : ∀ request, request.IsPassive → P request)
    (hbalance : Text.IsUsername (Text.trim form.username) →
      P (.findBalance (Text.trim form.username)))
    (hcommit : ∀ order : Order, Text.IsUsername (Text.trim form.username) → order.IsSound →
      order.totalAmount.isNegative = false → form.Places order → P (.commit order.side order)) :
    AsksOnly P (place form) := by
  suffices h : Yields P (fun _ => True) (place form) from h.asksOnly
  rw [place_eq_placeAt]
  refine (AsksOnly.ask (hpassive .clock trivial)).yields.bind fun now _ => ?_
  refine (Yields.ofExcept _ _).bind fun request hcheck => ?_
  obtain ⟨hcorrect, rfl⟩ := OrderForm.check_eq_ok_iff.1 hcheck
  refine (effectivePrice_yields hpassive _).bind fun price hprice => AsksOnly.yields ?_
  refine placeAt_asksOnly_of hpassive (hbalance hcorrect.username)
    fun order idTime token hworth hplace => ?_
  exact hcommit order hcorrect.username
    (Order.isSound_of_place hcorrect hprice.1 hprice.2 hworth hplace)
    (Order.isNegative_totalAmount_of_place hcorrect hprice.1 hprice.2 hplace)
    ⟨now, _, price, idTime, token, hcheck, hplace⟩

/-- Whoever places an order asks for the commit of a sound order, and for no change. -/
theorem place_asksOnly (form : OrderForm) (found : OrderId → Prop)
    (changed : Order → Status → Prop) :
    AsksOnly (Request.IsWithin found Order.IsSound changed) (place form) :=
  place_asksOnly_of form (fun _ h => h.isReading.isWithin _ _ _) (fun _ => trivial)
    fun _ _ hsound _ _ => hsound

/-! ## Changing and reading -/

section Changes

variable {new : Order → Prop} {changed : Order → Status → Prop}

/-- An order is looked up. -/
theorem requireOrder_asksOnly (found : OrderId → Prop) {orderId : OrderId} (h : found orderId) :
    AsksOnly (Request.IsWithin found new changed) (requireOrder orderId) := by
  refine AsksOnly.bind (.ask h) fun answer => ?_
  refine AsksOnly.bind (.ofAnswer (fun _ => trivial) _ answer) fun order => ?_
  cases order with
  | none => exact .refuse _
  | some order => exact .pure order

/-- An order that a user may act on is looked up, with its user. -/
theorem ownedOrder_asksOnly (username orderId : String) :
    AsksOnly (Request.IsWithin (· = ⟨orderId⟩) new changed) (ownedOrder username orderId) := by
  suffices h : Yields (Request.IsWithin (· = ⟨orderId⟩) new changed) (fun _ => True)
      (ownedOrder username orderId) from h.asksOnly
  refine (Yields.ofExcept _ _).bind fun key hkey => ?_
  obtain rfl := eq_of_field_orderId hkey
  refine ((requireUser_asksOnly username).mono fun _ h => h.isReading.isWithin _ _ _).yields.bind
    fun actor _ => ?_
  refine (requireOrder_asksOnly (· = ⟨orderId⟩) rfl).yields.bind fun order _ => ?_
  exact (Yields.ofExcept _ _).bind fun _ _ => .pure trivial

/-- The order that an actor asks about is looked up. -/
theorem orderFor_asksOnly (actor : Actor) (orderId : String) :
    AsksOnly (Request.IsWithin (· = ⟨orderId⟩) new changed) (orderFor actor orderId) := by
  cases actor with
  | user username => exact ownedOrder_asksOnly username orderId
  | system =>
    suffices h : Yields (Request.IsWithin (· = ⟨orderId⟩) new changed) (fun _ => True)
        (orderFor .system orderId) from h.asksOnly
    refine (Yields.ofExcept _ _).bind fun key hkey => ?_
    obtain rfl := eq_of_field_orderId hkey
    exact (requireOrder_asksOnly (· = ⟨orderId⟩) rfl).yields

/-- What is changed on behalf of a user who cancels is a cancellation that users may ask for. -/
theorem cancel_asksOnly (username orderId : String) :
    AsksOnly (Request.IsWithin (· = ⟨orderId⟩) new Order.IsUserCancellation)
      (cancel username orderId) := by
  have hlog : ∀ event, (Request.log event).IsWithin (· = ⟨orderId⟩) new Order.IsUserCancellation :=
    fun _ => trivial
  suffices h : Yields (Request.IsWithin (· = ⟨orderId⟩) new Order.IsUserCancellation)
      (fun _ => True) (cancel username orderId) from h.asksOnly
  unfold cancel checkCancellation
  refine Yields.bind ((ownedOrder_asksOnly username orderId).bind fun order =>
    AsksOnly.bind (.ofExcept _ _) fun _ => .pure order).yields fun order _ => ?_
  refine (AsksOnly.ask trivial).yields.bind fun now _ => ?_
  refine (Yields.ofAnswer hlog _ _).bind fun changed hchanged => ?_
  refine (AsksOnly.ask (Order.isUserCancellation_of_moveTo hchanged)).yields.bind fun answer _ => ?_
  refine (AsksOnly.ofAnswer hlog _ answer).yields.bind fun _ _ => ?_
  exact (AsksOnly.ask trivial).yields.bind fun _ _ => .pure trivial

/-- What is changed on behalf of an actor is what the actor may change. -/
theorem updateStatus_asksOnly (orderId : String) (target : Status) (actor : Actor)
    (hmoved : ∀ order now changedOrder, moved actor order target now = .ok changedOrder →
      changed changedOrder order.status) :
    AsksOnly (Request.IsWithin (· = ⟨orderId⟩) new changed)
      (updateStatus orderId target actor) := by
  have hlog : ∀ event, (Request.log event).IsWithin (· = ⟨orderId⟩) new changed :=
    fun _ => trivial
  unfold updateStatus
  refine (orderFor_asksOnly actor orderId).bind fun order => ?_
  refine AsksOnly.bind (.ask trivial) fun now => ?_
  cases hchanged : moved actor order target now with
  | error e => exact AsksOnly.bind (.ask trivial) fun _ => .refuse _
  | ok changedOrder =>
    refine AsksOnly.bind (.ask (hmoved order now changedOrder hchanged)) fun answer => ?_
    refine AsksOnly.bind (.ofAnswer hlog _ answer) fun _ => ?_
    exact AsksOnly.bind (.ask trivial) fun _ => .pure _

end Changes

end Service

/-! ## Calls -/

/-- What a **call** may ask. It looks up its own order only, and only an update by the system may
ask for changes other than cancellations of orders that users may cancel. -/
def Call.MayAsk : Call → Request → Prop
  | place _ => Request.IsWithin (fun _ => False) Order.IsSound fun _ _ => False
  | cancel _ orderId | update orderId _ (.user _) =>
    Request.IsWithin (· = ⟨orderId⟩) (fun _ => False) Order.IsUserCancellation
  | update orderId target .system =>
    Request.IsWithin (· = ⟨orderId⟩) (fun _ => False) fun changed _ => changed.status = target
  | order _ orderId => Request.IsWithin (· = ⟨orderId⟩) (fun _ => False) fun _ _ => False
  | orders _ => Request.IsWithin (fun _ => False) (fun _ => False) fun _ _ => False

/-- No call asks for anything else, whatever it is answered. -/
theorem Call.asksOnly_mayAsk (defaultLimit : Nat) (call : Call) :
    Service.AsksOnly call.MayAsk (call.service defaultLimit) := by
  cases call with
  | place form => exact (Service.place_asksOnly form _ _).bind fun _ => .pure _
  | cancel username orderId =>
    exact (Service.cancel_asksOnly username orderId).bind fun _ => .pure _
  | update orderId target actor =>
    cases actor with
    | user username =>
      exact (Service.updateStatus_asksOnly orderId target _
        fun _ _ _ => Service.isUserCancellation_of_moved).bind fun _ => .pure _
    | system =>
      refine (Service.updateStatus_asksOnly orderId target _ fun _ _ changed h => ?_).bind
        fun _ => .pure _
      rw [(Service.eq_withStatus_of_moved h).2]
      rfl
  | order username orderId =>
    exact ((Service.ownedOrder_asksOnly username orderId).bind fun _ => .pure _).bind
      fun _ => .pure _
  | orders query =>
    exact ((Service.orders_asksOnly defaultLimit query).mono
      fun _ h => h.isWithin _ _ _).bind fun _ => .pure _

/-- A commit that a call asks for is one of a sound order. -/
theorem Call.MayAsk.isSound {call : Call} {side : Side} {order : Order}
    (h : call.MayAsk (.commit side order)) : order.IsSound := by
  match call with
  | .place _ => exact h
  | .cancel .. | .update _ _ (.user _) | .update _ _ .system | .order .. | .orders _ => exact h.elim

/-- Whoever places no order asks for no commit. -/
theorem Call.asksOnly_ne_commit (defaultLimit : Nat) {call : Call}
    (h : ∀ form, call ≠ .place form) :
    Service.AsksOnly (fun request => ∀ side order, request ≠ .commit side order)
      (call.service defaultLimit) := by
  refine (call.asksOnly_mayAsk defaultLimit).mono ?_
  rintro _ hasks side order rfl
  match call with
  | .place form => exact h form rfl
  | .cancel .. | .update _ _ (.user _) | .update _ _ .system | .order .. | .orders _ => exact hasks

/-- A call that looks an order up and asks for a change cancels an order that users may cancel, or
it is the system's update of this order to the new status. -/
theorem Call.MayAsk.change {call : Call} {orderId : OrderId} {changed : Order} {expected : Status}
    (hfound : call.MayAsk (.findOrder orderId))
    (hchange : call.MayAsk (.saveIfStatus changed expected)) :
    changed.IsUserCancellation expected ∨
      call = .update orderId.text changed.status .system := by
  match call with
  | .cancel .. | .update _ _ (.user _) => exact .inl hchange
  | .update key target .system =>
    obtain rfl : orderId = ⟨key⟩ := hfound
    obtain rfl : changed.status = target := hchange
    exact .inr rfl
  | .place _ | .order .. | .orders _ => exact hchange.elim

end OrderDesk
