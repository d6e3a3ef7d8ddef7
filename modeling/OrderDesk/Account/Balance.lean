import OrderDesk.Order.Basic

/-!
# Balances

The money of a user. A balance is debited by what an order to buy costs and credited with what an
order to sell brings in.

## Main definitions

* `OrderDesk.Balance`: an amount, its owner and the time of the last change.
* `OrderDesk.Failure`: an error, or a sum that is too large to be a decimal number.
* `OrderDesk.Balance.debit`, `OrderDesk.Balance.credit`.
-/

set_option autoImplicit false

namespace OrderDesk

/-- A computation ends with an error of its own kind, or because a sum is out of range. -/
inductive Failure (ε : Type) where
  | error (e : ε)
  | sumOverflow
deriving DecidableEq

/-- The wording of a sum that is out of range. -/
def Failure.overflowMessage : String :=
  "Addition overflowed"

/-- The money of a user. -/
structure Balance where
  username : Username
  current : Decimal
  /-- The time of the last change. -/
  updatedAt : Instant
deriving DecidableEq

/-! ## Refused changes -/

/-- A negative amount is not debited. -/
def DomainError.negativeDebit : DomainError :=
  .invalidValue "amount" "Debit amount cannot be negative"

/-- A negative amount is not credited. -/
def DomainError.negativeCredit : DomainError :=
  .invalidValue "amount" "Credit amount cannot be negative"

/-- The wording of an amount that a balance does not cover. -/
def insufficientBalanceMessage (required available : Decimal) : String :=
  "Insufficient balance: required " ++ required.text ++ ", available " ++ available.text

/-- An amount that the balance does not cover is not debited. -/
def DomainError.uncovered (required available : Decimal) : DomainError :=
  .invalidValue "current_balance" (insufficientBalanceMessage required available)

namespace Balance

/-- The balance of a user who never had one. -/
def empty (username : Username) (now : Instant) : Balance :=
  { username, current := .zero, updatedAt := now }

/-- At least this amount is there. -/
def covers (b : Balance) (amount : Decimal) : Bool :=
  amount ≤ b.current

/-- The balance with another amount, changed at `now`. -/
def withCurrent (b : Balance) (amount : Decimal) (now : Instant) : Balance :=
  { b with current := amount, updatedAt := now }

/-- The balance without an amount, which is not negative and covered. -/
def debit (b : Balance) (amount : Decimal) (now : Instant) : Except (Failure DomainError) Balance :=
  if amount.isNegative then .error (.error .negativeDebit)
  else if !b.covers amount then .error (.error (.uncovered amount b.current))
  else match b.current.difference? amount with
    | some rest => .ok (b.withCurrent rest now)
    | none => .error .sumOverflow

/-- The balance with an amount added, which is not negative. -/
def credit (b : Balance) (amount : Decimal) (now : Instant) :
    Except (Failure DomainError) Balance :=
  if amount.isNegative then .error (.error .negativeCredit)
  else match b.current.sum? amount with
    | some total => .ok (b.withCurrent total now)
    | none => .error .sumOverflow

end Balance

end OrderDesk
