import OrderDesk.Account.User
import OrderDesk.Asset
import OrderDesk.Service.Event

/-!
# Programs over the surroundings

The service needs a clock, random identifiers, stores and a log. It reaches them by *requests*, one
after another, and goes on with the answers. A program is the tree of its requests; what the
surroundings do is left to a *handler*.

## Main definitions

* `OrderDesk.Request`, `OrderDesk.Request.Answer`: what may be asked and what may be answered.
* `OrderDesk.Program`: requests and what follows from their answers.
* `OrderDesk.Handler`: surroundings with a state of their own.
* `OrderDesk.Program.run`: a program run to its end.
* `OrderDesk.Service`: a program that may end with what a client is told.
-/

set_option autoImplicit false

namespace OrderDesk

/-! ## Requests -/

/-- An order that is stored together with its money. -/
structure Settlement where
  order : Order
  /-- The balance of the owner after it. -/
  balance : Balance
deriving DecidableEq

/-- What the service asks of its surroundings. -/
inductive Request where
  /-- The time. -/
  | clock
  /-- A fresh random identifier. -/
  | token
  | findUser (username : String)
  | findAsset (assetId : AssetId)
  | findBalance (username : String)
  | findOrder (orderId : OrderId)
  /-- The newest orders of a user. -/
  | ordersOf (owner : Username) (status : Option Status) (limit : Option Nat)
  /-- Replace the stored order, provided that it is still in the expected status. -/
  | saveIfStatus (order : Order) (expected : Status)
  /-- Move the money of a new order and store the order, both or none. -/
  | commit (side : Side) (order : Order)
  | log (event : Event)

/-- The type of the answers to a request. -/
@[reducible]
def Request.Answer : Request → Type
  | clock => Instant
  | token => Uuid
  | findUser _ => Except LookupError (Option User)
  | findAsset _ => Except LookupError (Option Asset)
  | findBalance _ => Except LookupError (Option Balance)
  | findOrder _ => Except OrderError (Option Order)
  | ordersOf .. => Except OrderError (List Order)
  | saveIfStatus .. => Except OrderError Unit
  | commit .. => Except (Failure TransactionError) Settlement
  | log _ => Unit

/-! ## Programs -/

/-- Requests and what follows from their answers. -/
inductive Program (α : Type) where
  | done (a : α)
  | ask (request : Request) (next : request.Answer → Program α)

namespace Program

/-- One program after another. -/
def andThen {α β : Type} (p : Program α) (f : α → Program β) : Program β :=
  match p with
  | done a => f a
  | ask request next => ask request fun answer => (next answer).andThen f

/-- Programs in a row, where ending at once is no step. -/
instance : Monad Program where
  pure := done
  bind := andThen

/-- Ending at once is no step after a program. -/
@[simp]
theorem andThen_done {α : Type} (p : Program α) : p.andThen done = p := by
  induction p with
  | done a => rfl
  | ask request next ih => simp [andThen, ih]

/-- It does not matter how programs in a row are grouped. -/
theorem andThen_assoc {α β γ : Type} (p : Program α) (f : α → Program β) (g : β → Program γ) :
    (p.andThen f).andThen g = p.andThen fun a => (f a).andThen g := by
  induction p with
  | done a => rfl
  | ask request next ih => simp [andThen, ih]

end Program

/-! ## Surroundings -/

/-- Surroundings with a state: each request is answered and may change the state. -/
def Handler (σ : Type) : Type :=
  (request : Request) → σ → request.Answer × σ

/-- A program run to its end. -/
def Program.run {σ α : Type} (h : Handler σ) : Program α → σ → α × σ
  | done a, s => (a, s)
  | ask request next, s =>
    let (answer, s) := h request s
    (next answer).run h s

/-- Programs in a row are run one after the other. -/
theorem Program.run_andThen {σ α β : Type} (h : Handler σ) (p : Program α) (f : α → Program β)
    (s : σ) : (p.andThen f).run h s = (f (p.run h s).1).run h (p.run h s).2 := by
  induction p generalizing s with
  | done a => rfl
  | ask request next ih => simp only [andThen, Program.run, ih]

/-- The surroundings with a journal of all events, the newest last. -/
def Handler.journaled {σ : Type} (h : Handler σ) : Handler (σ × List Event) :=
  fun request (s, journal) =>
    let (answer, s') := h request s
    match request with
    | .log event => (answer, s', journal ++ [event])
    | _ => (answer, s', journal)

/-! ## Services -/

/-- A program that may end with what a client is told, or with a sum that is out of range. -/
abbrev Service (α : Type) : Type :=
  ExceptT (Failure ServiceError) Program α

namespace Service

/-- A request on its own. -/
def ask (request : Request) : Service request.Answer :=
  ExceptT.lift (Program.ask request Program.done)

/-- The time. -/
def clock : Service Instant :=
  ask .clock

/-- A fresh random identifier. -/
def token : Service Uuid :=
  ask .token

/-- Report an event. -/
def log (event : Event) : Service Unit :=
  ask (.log event)

/-- End with what a client is told. -/
def refuse {α : Type} (e : ServiceError) : Service α :=
  throw (.error e)

/-- End with what a client is told about a cause; an outage is reported in full. -/
def fail {α : Type} (cause : Cause) : Service α := do
  if cause.isOutage then log (.infrastructureFailure cause)
  refuse cause.told

/-- Go on with the value of a check, or end with its error. -/
def ofExcept {ε α : Type} (tell : ε → ServiceError) (result : Except ε α) : Service α :=
  match result with
  | .ok a => pure a
  | .error e => refuse (tell e)

/-- Go on with an answer, or end with its cause. -/
def ofAnswer {ε α : Type} (cause : ε → Cause) (answer : Except ε α) : Service α :=
  match answer with
  | .ok a => pure a
  | .error e => fail (cause e)

/-- Report the error with which a service ends, if it does. -/
def reporting {α : Type} (event : ServiceError → Event) (service : Service α) : Service α :=
  tryCatch service fun
    | .error e => do
      log (event e)
      throw (.error e)
    | .sumOverflow => throw .sumOverflow

end Service

/-- A service run to its end. -/
def Service.run {σ α : Type} (h : Handler σ) (service : Service α) (s : σ) :
    Except (Failure ServiceError) α × σ :=
  Program.run h (ExceptT.run service) s

end OrderDesk
