import OrderDesk.Proofs.Requests

/-!
# Outages

Something behind the service may fail: a store that cannot be reached, a balance lock that is not
had in time, an order ID that is taken. The client is then told that the service is not available,
and is told so for no other reason. A balance that refuses the amount of an order counts as such a
failure as well, but no order that the service places has an amount to be refused. What exactly has
failed is reported with its details, and these do not show in anything else that the service does.

## Main definitions

* `OrderDesk.Request.cause?`, `OrderDesk.Request.fails` — why a request has failed, and whether
  something behind the service has.
* `OrderDesk.outages` — the contract that notes whether something has failed.
* `OrderDesk.Request.redact`, `OrderDesk.Event.redacted` — answers and events without details of
  failures.
* `OrderDesk.Program.InStep` — programs that ask the same whatever the details are, and end when
  something fails.
* `OrderDesk.Service.Reticent` — a service that is in step with itself.
* `OrderDesk.Service.Candid` — a service that tells of failures behind it, and of nothing else as
  if it were one.

## Main results

* `OrderDesk.Call.reticent_service` — every call is reticent.
* `OrderDesk.Call.keeps_outages` — every call is candid, whatever its surroundings answer.
* `OrderDesk.Call.asksOnly_isUnsigned`, `OrderDesk.Desk.isOutage_of_charge` — what is asked to be
  charged is not refused by a balance.
-/

set_option autoImplicit false

namespace OrderDesk

/-! ## Failures behind the service -/

namespace Request

/-- The **cause** for which a request has failed. A sum that is out of range has none. -/
def cause? : (request : Request) → request.Answer → Option Cause
  | findUser _, .error e | findAsset _, .error e | findBalance _, .error e => some (.lookup e)
  | findOrder _, .error e | ordersOf .., .error e | saveIfStatus .., .error e => some (.order e)
  | commit .., .error (.error e) => some (.transaction e)
  | _, _ => none

/-- Something behind the service **fails** when it answers a request. -/
def fails (request : Request) (answer : request.Answer) : Bool :=
  (request.cause? answer).any Cause.isOutage

end Request

/-- A refused move is no failure behind the service. -/
theorem ServiceError.category_ofTransition (e : TransitionError) :
    (ofTransition e).category ≠ .internal := by
  unfold ofTransition
  split <;> exact nofun

/-- A client is told of a failure behind the service exactly if the cause is one. -/
theorem Cause.category_told (c : Cause) : decide (c.told.category = .internal) = c.isOutage := by
  match c with
  | lookup _ => rfl
  | transaction (.insufficientBalance ..) | transaction (.lockAcquisition _)
  | transaction (.databaseOperation _) => rfl
  | order (.transition e) => exact decide_eq_false (ServiceError.category_ofTransition e)
  | order (.ruleViolations _) | order (.statusConflict ..) | order (.notFound _)
  | order (.duplicateOrderId _) | order (.persistence _) => rfl

/-- The client is told that something behind the service has failed. -/
def isInternal {α : Type} : Except (Failure ServiceError) α → Bool
  | .error (.error e) => e.category = .internal
  | .ok _ | .error .sumOverflow => false

/-- A note is taken of whether something behind the service has failed so far. -/
def Request.noteFailure (failed : Bool) (request : Request) (answer : request.Answer) : Bool :=
  failed || request.fails answer

/-- The contract that notes whether something behind the service has failed. Anything may be
asked. -/
def outages : Contract Bool :=
  .recording (fun _ _ => True) Request.noteFailure

/-! ## Details of failures -/

/-- The error without its details. -/
def LookupError.redacted (_ : LookupError) : LookupError :=
  ⟨""⟩

/-- The error without its details, if it has any. -/
def TransactionError.redacted : TransactionError → TransactionError
  | insufficientBalance required available => insufficientBalance required available
  | lockAcquisition _ => lockAcquisition ""
  | databaseOperation _ => databaseOperation ""

/-- The error without its details, if it has any. -/
def OrderError.redacted : OrderError → OrderError
  | persistence _ => persistence ""
  | e => e

/-- The cause without its details. -/
def Cause.redacted : Cause → Cause
  | lookup e => lookup e.redacted
  | transaction e => transaction e.redacted
  | order e => order e.redacted

/-- The failure without its details. -/
def Failure.redacted : Failure TransactionError → Failure TransactionError
  | error e => error e.redacted
  | sumOverflow => sumOverflow

/-- The event without the details of a failure that it reports. -/
def Event.redacted : Event → Event
  | transactionFailed orderId error => transactionFailed orderId error.redacted
  | infrastructureFailure cause => infrastructureFailure cause.redacted
  | event => event

/-- The answer to a request without the details of a failure. -/
def Request.redact : (request : Request) → request.Answer → request.Answer
  | findUser _, answer | findAsset _, answer | findBalance _, answer =>
    answer.mapError LookupError.redacted
  | findOrder _, answer | ordersOf .., answer | saveIfStatus .., answer =>
    answer.mapError OrderError.redacted
  | commit .., answer => answer.mapError Failure.redacted
  | clock, answer | token, answer | log _, answer => answer

namespace Cause

/-- What a client is told does not depend on the details. -/
@[simp]
theorem told_redacted (c : Cause) : c.redacted.told = c.told := by
  match c with
  | lookup _ => rfl
  | transaction e => cases e <;> rfl
  | order e => cases e <;> rfl

/-- Whether something behind the service has failed does not depend on the details. -/
@[simp]
theorem isOutage_redacted (c : Cause) : c.redacted.isOutage = c.isOutage := by
  match c with
  | lookup _ => rfl
  | transaction e => cases e <;> rfl
  | order e => cases e <;> rfl

end Cause

/-! ## Services in step -/

/-- Two programs are **in step**. They ask the same and end the same, if only the details of
failures differ in what they are answered; in what they report such details may differ, too. It is
known whether something behind them has failed so far. As soon as it has, they report and end as not
available; otherwise they do not end with an internal error. -/
inductive Program.InStep {α : Type} : Bool → Program (Except (Failure ServiceError) α) →
    Program (Except (Failure ServiceError) α) → Prop
  | ended {r : Except (Failure ServiceError) α} (h : isInternal r = false) :
      InStep false (done r) (done r)
  | unavailable :
      InStep true (done (.error (.error .unavailable))) (done (.error (.error .unavailable)))
  | log {failed : Bool} {event event' : Event}
      {next next' : Unit → Program (Except (Failure ServiceError) α)}
      (hevent : event.redacted = event'.redacted) (h : InStep failed (next ()) (next' ())) :
      InStep failed (ask (.log event) next) (ask (.log event') next')
  | ask {request : Request}
      {next next' : request.Answer → Program (Except (Failure ServiceError) α)}
      (h : ∀ answer answer', request.redact answer = request.redact answer' →
        InStep (request.fails answer) (next answer) (next' answer')) :
      InStep false (ask request next) (ask request next')

namespace Service

/-- Two services are in step. -/
def InStep {α : Type} (failed : Bool) (x y : Service α) : Prop :=
  Program.InStep failed (ExceptT.run x) (ExceptT.run y)

/-- The service is **reticent**: it is in step with itself, so that only its reports show details of
failures. -/
def Reticent {α : Type} (x : Service α) : Prop :=
  InStep false x x

section Rules

variable {α β ε : Type} {failed : Bool} {x y : Service α}

/-- One step after another: whoever goes on has met no failure. -/
theorem InStep.bind {f : α → Service β} (hx : InStep failed x y) (hf : ∀ a, Reticent (f a)) :
    InStep failed (x >>= f) (y >>= f) := by
  change Program.InStep failed ((ExceptT.run x).andThen (ExceptT.bindCont f))
    ((ExceptT.run y).andThen (ExceptT.bindCont f))
  unfold InStep at hx
  generalize ExceptT.run x = p at hx ⊢
  generalize ExceptT.run y = q at hx ⊢
  induction hx with
  | @ended r h =>
    match r with
    | .ok a => exact hf a
    | .error (.error e) | .error .sumOverflow => exact .ended h
  | unavailable => exact .unavailable
  | log hevent _ ih => exact .log hevent ih
  | ask _ ih => exact .ask fun answer answer' h => ih answer answer' h

/-- A value at once. -/
theorem Reticent.pure (a : α) : Reticent (Pure.pure a) :=
  Program.InStep.ended rfl

/-- What a client is told at once. -/
theorem Reticent.refuse {e : ServiceError} (h : e.category ≠ .internal) :
    Reticent (Service.refuse e : Service α) :=
  Program.InStep.ended (decide_eq_false h)

/-- A request whose answers may differ in the details of a failure. -/
theorem InStep.ask {request : Request} {f g : request.Answer → Service α}
    (h : ∀ answer answer', request.redact answer = request.redact answer' →
      InStep (request.fails answer) (f answer) (g answer')) :
    InStep false (Service.ask request >>= f) (Service.ask request >>= g) :=
  Program.InStep.ask h

/-- The clock is read. -/
theorem Reticent.clock : Reticent Service.clock := by
  refine Program.InStep.ask fun answer answer' h => ?_
  obtain rfl : answer = answer' := h
  exact .ended rfl

/-- A random identifier is drawn. -/
theorem Reticent.token : Reticent Service.token := by
  refine Program.InStep.ask fun answer answer' h => ?_
  obtain rfl : answer = answer' := h
  exact .ended rfl

/-- An event is reported before a service goes on. -/
theorem InStep.log {event event' : Event} (hevent : event.redacted = event'.redacted)
    {f g : Unit → Service α} (h : InStep failed (f ()) (g ())) :
    InStep failed (Service.log event >>= f) (Service.log event' >>= g) :=
  Program.InStep.log hevent h

/-- A step that is refused under a condition. -/
theorem Reticent.guarded {c : Prop} [Decidable c] {e : ServiceError} (he : e.category ≠ .internal)
    {rest : Unit → Service α} (h : Reticent (rest ())) :
    Reticent (if c then (do let r ← Service.refuse e; rest r) else rest ()) := by
  split
  · exact Program.InStep.ended (decide_eq_false he)
  · exact h

/-- A value that is there, or what a client is told. -/
theorem Reticent.ofExcept {tell : ε → ServiceError} {r : Except ε α}
    (h : ∀ e, r = .error e → (tell e).category ≠ .internal) :
    Reticent (Service.ofExcept tell r) := by
  cases r with
  | ok a => exact pure a
  | error e => exact refuse (h e rfl)

/-- Of a cause a client is told no details. -/
theorem InStep.fail {c c' : Cause} (h : c.redacted = c'.redacted) :
    InStep c.isOutage (Service.fail c : Service α) (Service.fail c') := by
  have htold : c.told = c'.told := by rw [← c.told_redacted, h, c'.told_redacted]
  have houtage : c.isOutage = c'.isOutage := by rw [← c.isOutage_redacted, h, c'.isOutage_redacted]
  unfold Service.fail
  rw [← houtage, ← htold]
  cases hc : c.isOutage with
  | true =>
    have hevent : (Event.infrastructureFailure c).redacted =
        (Event.infrastructureFailure c').redacted :=
      congrArg Event.infrastructureFailure h
    refine InStep.log hevent ?_
    rw [Cause.told_of_isOutage hc]
    exact Program.InStep.unavailable
  | false => exact Reticent.refuse (of_decide_eq_false (c.category_told.trans hc))

/-- The answer to a request, or its cause: the request fails with the causes that are outages. -/
theorem InStep.ofAnswer {cause : ε → Cause} {redacted : ε → ε} (fails : Except ε α → Bool)
    (hok : ∀ a, fails (.ok a) = false) (herr : ∀ e, fails (.error e) = (cause e).isOutage)
    (hcause : ∀ e, cause (redacted e) = (cause e).redacted) {answer answer' : Except ε α}
    (h : answer.mapError redacted = answer'.mapError redacted) :
    InStep (fails answer) (Service.ofAnswer cause answer) (Service.ofAnswer cause answer') := by
  cases answer with
  | ok a =>
    cases answer' with
    | ok a' =>
      cases h
      exact (hok a).symm ▸ Reticent.pure a
    | error e' => cases h
  | error e =>
    cases answer' with
    | ok a' => cases h
    | error e' =>
      have hsame : redacted e = redacted e' := Except.error.inj h
      exact (herr e).symm ▸ InStep.fail (by rw [← hcause, hsame, hcause])

/-- A result that nobody was asked for, or its cause, which is no outage. -/
theorem Reticent.ofResult {cause : ε → Cause} {r : Except ε α}
    (h : ∀ e, r = .error e → (cause e).isOutage = false) :
    Reticent (Service.ofAnswer cause r) := by
  cases r with
  | ok a => exact pure a
  | error e =>
    have hfail : InStep (cause e).isOutage (Service.fail (cause e) : Service α)
        (Service.fail (cause e)) :=
      .fail rfl
    rwa [h e rfl] at hfail

/-- A report of an error tells nothing else. -/
theorem InStep.reporting (event : ServiceError → Event) (h : InStep failed x y) :
    InStep failed (Service.reporting event x) (Service.reporting event y) := by
  change Program.InStep failed ((ExceptT.run x).andThen _) ((ExceptT.run y).andThen _)
  unfold InStep at h
  generalize ExceptT.run x = p at h ⊢
  generalize ExceptT.run y = q at h ⊢
  induction h with
  | @ended r h =>
    match r with
    | .ok a => exact .ended h
    | .error .sumOverflow => exact .ended h
    | .error (.error e) => exact .log rfl (.ended h)
  | unavailable => exact .log rfl .unavailable
  | log hevent _ ih => exact .log hevent ih
  | ask _ ih => exact .ask fun answer answer' h => ih answer answer' h

end Rules

/-! ### What is reticent -/

/-- A wrong field is told. -/
theorem reticent_field {α : Type} (r : Except FieldError α) : Reticent (field r) :=
  .ofExcept fun _ _ => nofun

/-- A broken rule is told. -/
theorem reticent_rule {α : Type} (r : Except RuleViolation α) : Reticent (rule r) :=
  .ofExcept fun _ _ => nofun

/-- What is denied to a user is told as such. -/
theorem category_of_permit {actor : User} {owner : String} {e : ServiceError}
    (h : permit actor owner = .error e) : e.category ≠ .internal := by
  unfold permit at h
  split at h
  · cases h
    exact nofun
  · split at h
    · cases h
    · cases h
      exact nofun

/-- The user of a name is looked up. -/
theorem reticent_requireUser (username : String) : Reticent (requireUser username) := by
  refine InStep.ask fun answer answer' h => .bind (.ofAnswer (Request.fails (.findUser username))
    (fun _ => rfl) (fun _ => rfl) (fun _ => rfl) h) fun user => ?_
  cases user with
  | none => exact .refuse nofun
  | some user => exact .pure user

/-- The asset of a symbol is looked up. -/
theorem reticent_requireAsset (assetId : AssetId) : Reticent (requireAsset assetId) := by
  refine InStep.ask fun answer answer' h => .bind (.ofAnswer (Request.fails (.findAsset assetId))
    (fun _ => rfl) (fun _ => rfl) (fun _ => rfl) h) fun asset => ?_
  cases asset with
  | none => exact .refuse nofun
  | some asset => exact .pure asset

/-- The stored order of an order ID is looked up. -/
theorem reticent_requireOrder (orderId : OrderId) : Reticent (requireOrder orderId) := by
  refine InStep.ask fun answer answer' h => .bind (.ofAnswer (Request.fails (.findOrder orderId))
    (fun _ => rfl) (fun _ => rfl) (fun _ => rfl) h) fun order => ?_
  cases order with
  | none => exact .refuse nofun
  | some order => exact .pure order

/-- An order that a user may act on is looked up. -/
theorem reticent_ownedOrder (username orderId : String) :
    Reticent (ownedOrder username orderId) := by
  refine (reticent_field _).bind fun key => (reticent_requireUser username).bind fun actor => ?_
  refine (reticent_requireOrder key).bind fun order => ?_
  exact InStep.bind (Reticent.ofExcept fun _ h => category_of_permit h) fun _ => .pure order

/-- The order that an actor asks about is looked up. -/
theorem reticent_orderFor (actor : Actor) (orderId : String) :
    Reticent (orderFor actor orderId) := by
  cases actor with
  | user username => exact reticent_ownedOrder username orderId
  | system => exact (reticent_field _).bind fun key => reticent_requireOrder key

/-- The price of an order is its limit price or comes from the asset. -/
theorem reticent_effectivePrice (request : OrderRequest) : Reticent (effectivePrice request) := by
  unfold effectivePrice
  cases request.orderPrice with
  | none => exact (reticent_requireAsset _).bind fun asset => .guarded (by nofun) (.pure _)
  | some price => exact .pure price

/-- A new order is checked against its user, its asset and a balance. -/
theorem reticent_checkPlacement (username : Username) (assetId : AssetId) (orderType : OrderType)
    (quantity price : Decimal) :
    Reticent (checkPlacement username assetId orderType quantity price) := by
  refine (reticent_requireUser _).bind fun user => .guarded (by nofun) ?_
  refine (reticent_requireAsset _).bind fun asset => .guarded (by nofun) ?_
  refine (reticent_rule _).bind fun value => (reticent_rule _).bind fun _ => ?_
  refine InStep.ask fun answer answer' h => .bind (.ofAnswer
    (Request.fails (.findBalance username.text)) (fun _ => rfl) (fun _ => rfl) (fun _ => rfl) h)
    fun balance => ?_
  exact .guarded (by nofun) (.pure _)

/-- A commit fails for a cause, and so does the service. -/
theorem reticent_commit (order : Order) : Reticent (commit order) := by
  refine Program.InStep.ask fun answer answer' h => ?_
  match answer, answer' with
  | .ok _, .ok _ =>
    cases h
    exact .log rfl (.ended rfl)
  | .error .sumOverflow, .error .sumOverflow => exact .ended rfl
  | .error (.error e), .error (.error e') =>
    have hsame : e.redacted = e'.redacted := Failure.error.inj (Except.error.inj h)
    have hfail : InStep (Cause.transaction e).isOutage
        (fail (.transaction e) : Service Settlement) (fail (.transaction e')) :=
      .fail (congrArg Cause.transaction hsame)
    have hevent : (Event.transactionFailed order.orderId e).redacted =
        (Event.transactionFailed order.orderId e').redacted :=
      congrArg (Event.transactionFailed order.orderId) hsame
    exact InStep.log hevent hfail
  | .ok _, .error _ | .error _, .ok _ => cases h
  | .error .sumOverflow, .error (.error _) | .error (.error _), .error .sumOverflow =>
    cases Except.error.inj h

/-- An order that is placed against no rule is refused for no failure behind the service. -/
theorem isOutage_of_place {request : OrderRequest} {price : Decimal} {now idTime : Instant}
    {token : Uuid} {e : OrderError} (h : Order.place request price now idTime token = .error e) :
    (Cause.order e).isOutage = false := by
  unfold Order.place at h
  dsimp only at h
  split at h
  · split at h
    · cases h
      rfl
    · cases h
  · cases h
    rfl

/-- A change that is stored, or not. -/
theorem reticent_save {α : Type} {changed : Order} {expected : Status} {rest : Unit → Service α}
    (h : Reticent (rest ())) :
    Reticent (do
      let saved ← ask (.saveIfStatus changed expected)
      let stored ← ofAnswer Cause.order saved
      rest stored) := by
  exact InStep.ask fun saved saved' hsaved => .bind (.ofAnswer
    (Request.fails (.saveIfStatus changed expected)) (fun _ => rfl) (fun _ => rfl) (fun _ => rfl)
    hsaved) fun _ => h

/-- An order is placed. -/
theorem reticent_place (form : OrderForm) : Reticent (place form) := by
  refine Reticent.clock.bind fun now => (reticent_field _).bind fun request => ?_
  refine (reticent_effectivePrice _).bind fun price => ?_
  refine (InStep.reporting _ (reticent_checkPlacement _ _ _ _ _)).bind fun placement => ?_
  refine Reticent.clock.bind fun idTime => Reticent.token.bind fun token => ?_
  refine InStep.bind (Reticent.ofResult fun _ h => isOutage_of_place h) fun order => ?_
  exact (reticent_commit order).bind fun settlement => InStep.log rfl (Reticent.pure _)

/-- An order is cancelled. -/
theorem reticent_cancel (username orderId : String) : Reticent (cancel username orderId) := by
  have hcheck : Reticent (checkCancellation username orderId) :=
    (reticent_ownedOrder username orderId).bind fun order => InStep.bind
      (Reticent.ofExcept fun _ _ => ServiceError.category_ofTransition _) fun _ => .pure order
  refine hcheck.bind fun order => Reticent.clock.bind fun now => ?_
  refine InStep.bind (Reticent.ofResult fun _ _ => rfl) fun changed => ?_
  exact reticent_save (InStep.log rfl (Reticent.pure _))

/-- The status of an order is changed. -/
theorem reticent_updateStatus (orderId : String) (target : Status) (actor : Actor) :
    Reticent (updateStatus orderId target actor) := by
  refine (reticent_orderFor actor orderId).bind fun order => Reticent.clock.bind fun now => ?_
  cases moved actor order target now with
  | error e => exact InStep.log rfl (Reticent.refuse (ServiceError.category_ofTransition e))
  | ok changed => exact reticent_save (InStep.log rfl (Reticent.pure _))

/-- Orders are listed. -/
theorem reticent_orders (defaultLimit : Nat) (query : ListingQuery) :
    Reticent (orders defaultLimit query) := by
  have hcheck : Reticent (checkListing query.username query.limit) := by
    unfold checkListing
    exact .guarded (by nofun) (reticent_requireUser _)
  refine hcheck.bind fun user => InStep.ask fun answer answer' h => .bind (.ofAnswer
    (Request.fails (.ordersOf user.username query.status _)) (fun _ => rfl) (fun _ => rfl)
    (fun _ => rfl) h) fun found => ?_
  exact InStep.log rfl (Reticent.pure _)

end Service

/-- **A call is reticent.** If only the details of failures differ in what it is answered, it asks
the same and ends the same. -/
theorem Call.reticent_service (defaultLimit : Nat) (call : Call) :
    Service.Reticent (call.service defaultLimit) := by
  cases call with
  | place form => exact (Service.reticent_place form).bind fun _ => .pure _
  | cancel username orderId => exact (Service.reticent_cancel _ _).bind fun _ => .pure _
  | update orderId target actor => exact (Service.reticent_updateStatus _ _ _).bind fun _ => .pure _
  | order username orderId =>
    exact Service.InStep.bind ((Service.reticent_ownedOrder _ _).bind fun _ => .pure _)
      fun _ => .pure _
  | orders query => exact (Service.reticent_orders _ _).bind fun _ => .pure _

/-! ## Candid services -/

/-- The service is **candid**: with what has failed before, it ends with an internal error exactly
if something behind it has failed. -/
structure Service.Candid {α : Type} (failed : Bool) (x : Service α) : Prop where
  keeps : Keeps outages (fun failed r => isInternal r = failed) x failed

/-- Services in step are candid. -/
theorem Service.InStep.candid {α : Type} {failed : Bool} {x y : Service α}
    (h : InStep failed x y) : Candid failed x := by
  refine ⟨?_⟩
  unfold InStep at h
  unfold Keeps
  generalize ExceptT.run x = p at h ⊢
  generalize ExceptT.run y = q at h
  induction h with
  | ended h => exact h
  | unavailable => rfl
  | @log failed _ _ _ _ _ _ ih =>
    refine ⟨trivial, ?_⟩
    rintro ⟨⟩ _ rfl
    rwa [Request.noteFailure, show Request.fails (.log _) () = false from rfl, Bool.or_false]
  | ask _ ih =>
    refine ⟨trivial, ?_⟩
    rintro answer _ rfl
    exact ih answer answer rfl

/-- **A call is candid.** Whatever its surroundings answer, it ends with an internal error exactly
if something behind the service has failed. -/
theorem Call.keeps_outages (defaultLimit : Nat) (call : Call) :
    (call.program defaultLimit).Keeps outages (fun failed r => isInternal r = failed) false :=
  (call.reticent_service defaultLimit).candid.keeps

/-! ## Amounts that are charged -/

/-- The request commits no order whose value has a minus sign. -/
def Request.IsUnsigned : Request → Prop
  | commit _ order => order.totalAmount.isNegative = false
  | clock | token | findUser _ | findAsset _ | findBalance _ | findOrder _ | ordersOf ..
  | saveIfStatus .. | log _ => True

/-- What is no commit commits no such order. -/
theorem Request.isUnsigned_of_ne_commit {request : Request}
    (h : ∀ side order, request ≠ .commit side order) : request.IsUnsigned := by
  cases request with
  | commit side order => exact (h side order rfl).elim
  | clock | token | findUser | findAsset | findBalance | findOrder | ordersOf | saveIfStatus
  | log => trivial

/-- No call commits an order whose value has a minus sign, whatever it is answered. -/
theorem Call.asksOnly_isUnsigned (defaultLimit : Nat) (call : Call) :
    Service.AsksOnly Request.IsUnsigned (call.service defaultLimit) := by
  cases call with
  | place form =>
    refine Service.AsksOnly.bind (Service.place_asksOnly_of form (fun request hpassive => ?_)
      (fun _ => trivial) fun _ _ _ hsign _ => hsign) fun _ => .pure _
    exact Request.isUnsigned_of_ne_commit hpassive.isReading.ne_commit
  | cancel | update | order | orders =>
    exact (asksOnly_ne_commit defaultLimit fun _ => by nofun).mono fun _ =>
      Request.isUnsigned_of_ne_commit

/-- An amount without a minus sign is not refused by the balance: if it cannot be charged, it is not
covered or the sum is out of range. -/
theorem Desk.isOutage_of_charge {side : Side} {before : Balance} {amount : Decimal} {now : Instant}
    {e : TransactionError} (hsign : amount.isNegative = false)
    (h : charge side before amount now = .error (.error e)) :
    (Cause.transaction e).isOutage = false := by
  cases side with
  | buy =>
    by_cases hcovers : amount ≤ before.current
    · cases hleft : before.current.difference? amount <;>
        simp [charge, Balance.debit, Balance.covers, hcovers, hsign, hleft, ofBalance] at h
    · simp [charge, Balance.covers, hcovers] at h
      subst h
      rfl
  | sell =>
    cases hsum : before.current.sum? amount <;>
      simp [charge, Balance.credit, hsign, hsum, ofBalance] at h

end OrderDesk
