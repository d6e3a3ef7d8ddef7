import OrderDesk.Account.Balance

/-!
# Errors of the service

A request to the service ends with an error that a client may read. The stores behind the service
have errors of their own; what a client is told about them never tells more than that the service is
not available.

## Main definitions

* `OrderDesk.ServiceError`: what a client is told.
* `OrderDesk.LookupError`, `OrderDesk.TransactionError`: errors of the stores.
* `OrderDesk.Cause`: an error from behind the service.
* `OrderDesk.Cause.told`: what a client is told about a cause.
-/

set_option autoImplicit false

namespace OrderDesk

/-! ## What a client is told -/

/-- What was asked for and is not there. -/
inductive Entity where
  | user
  | asset
  | order
  /-- A thing that the service itself does not know. -/
  | other (name : String)
deriving DecidableEq

/-- The name of an entity. -/
def Entity.name : Entity → String
  | user => "User"
  | asset => "Asset"
  | order => "Order"
  | other name => name

/-- The entity of a name. -/
def Entity.ofName (s : String) : Entity :=
  ([user, asset, order].find? (·.name == s)).getD (other s)

/-- An entity is found by its name. -/
theorem Entity.name_ofName (s : String) : (ofName s).name = s := by
  unfold ofName
  cases h : [user, asset, order].find? (·.name == s) with
  | none => rfl
  | some e => simpa using List.find?_some h

/-- The class of an error, by which a client chooses what to do. -/
inductive ErrorCategory where
  | validation
  | notFound
  | permission
  | internal
deriving DecidableEq

/-- The name of a class. -/
def ErrorCategory.name : ErrorCategory → String
  | validation => "validation"
  | notFound => "not_found"
  | permission => "permission"
  | internal => "internal"

/-- What a client is told when a request fails. -/
inductive ServiceError where
  /-- Wrong input or a broken rule. -/
  | validation (message : String)
  /-- An order to buy costs more than there is. -/
  | insufficientBalance (required available : Decimal)
  | notFound (entity : Entity) (id : String)
  /-- The actor may not do this. -/
  | permissionDenied (message : String)
  /-- Something behind the service failed. -/
  | internal (message : String)
deriving DecidableEq

namespace ServiceError

/-- The class of an error. -/
def category : ServiceError → ErrorCategory
  | validation _ | insufficientBalance .. => .validation
  | notFound .. => .notFound
  | permissionDenied _ => .permission
  | internal _ => .internal

/-- The wording of an error. -/
def message : ServiceError → String
  | validation message | permissionDenied message | internal message => message
  | insufficientBalance required available => insufficientBalanceMessage required available
  | notFound entity id => entity.name ++ " not found: " ++ id

/-- All that a client is told about a failure behind the service. -/
def unavailable : ServiceError :=
  internal "Service temporarily unavailable"

/-- A refused move: a matter of permission, or of the table of moves. -/
def ofTransition (e : TransitionError) : ServiceError :=
  if e.isPermission then permissionDenied e.message else validation e.message

/-- A refused value, told without its place. -/
def ofDomain (e : DomainError) : ServiceError :=
  validation e.bareMessage

end ServiceError

/-! ## Errors of the stores -/

/-- A store of users, assets or balances cannot be reached. -/
structure LookupError where
  detail : String
deriving DecidableEq

/-- The wording of a store that cannot be reached. -/
def LookupError.message (e : LookupError) : String :=
  "Lookup backend unavailable: " ++ e.detail

/-- An order and its money are not committed. -/
inductive TransactionError where
  | insufficientBalance (required available : Decimal)
  | lockAcquisition (detail : String)
  | databaseOperation (detail : String)
deriving DecidableEq

/-- The wording of a failed commit. -/
def TransactionError.message : TransactionError → String
  | insufficientBalance required available => insufficientBalanceMessage required available
  | lockAcquisition detail => "Failed to acquire lock: " ++ detail
  | databaseOperation detail => "Database operation failed: " ++ detail

/-! ## From a cause to what is told -/

/-- An error from behind the service. -/
inductive Cause where
  | lookup (e : LookupError)
  | transaction (e : TransactionError)
  | order (e : OrderError)
deriving DecidableEq

namespace Cause

/-- The part of the surroundings that a cause comes from. -/
def operation : Cause → String
  | lookup _ => "lookup"
  | transaction _ => "transaction_manager"
  | order _ => "order_repository"

/-- The wording of a cause. -/
def message : Cause → String
  | lookup e => e.message
  | transaction e => e.message
  | order e => e.message

/-- What a client is told about a cause. -/
def told : Cause → ServiceError
  | lookup _ => .unavailable
  | transaction (.insufficientBalance required available) => .insufficientBalance required available
  | transaction (.lockAcquisition _) | transaction (.databaseOperation _) => .unavailable
  | order (.transition e) => .ofTransition e
  | order (.ruleViolations violations) => .validation (OrderError.ruleViolations violations).message
  | order (.statusConflict orderId expected found) =>
    .validation (OrderError.statusConflict orderId expected found).message
  | order (.notFound orderId) => .notFound .order orderId
  | order (.duplicateOrderId _) | order (.persistence _) => .unavailable

/-- The cause is a failure of the surroundings, which a client is not told about. -/
def isOutage : Cause → Bool
  | lookup _ => true
  | transaction (.insufficientBalance ..) => false
  | transaction (.lockAcquisition _) | transaction (.databaseOperation _) => true
  | order (.transition _) | order (.ruleViolations _) | order (.statusConflict ..)
  | order (.notFound _) => false
  | order (.duplicateOrderId _) | order (.persistence _) => true

/-- Of an outage a client learns nothing but that the service is not available. -/
theorem told_of_isOutage {c : Cause} (h : c.isOutage = true) : c.told = .unavailable := by
  unfold isOutage at h
  split at h <;> simp_all [told]

end Cause

end OrderDesk
