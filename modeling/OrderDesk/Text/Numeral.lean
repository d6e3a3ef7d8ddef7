/-!
# Decimal numerals

Whole numbers written with the ASCII digits, and how they are read back.

## Main definitions

* `OrderDesk.Text.digits`: the digits of a natural number, without leading zeros.
* `OrderDesk.Text.zeroPadded`: the digits behind zeros up to a given width.
* `OrderDesk.Text.ofDigits?`: the value of a nonempty run of digits.
* `OrderDesk.Text.readInt64?`, `OrderDesk.Text.readNat32?`: numerals of a machine range, with an
  optional sign.
-/

set_option autoImplicit false

namespace OrderDesk.Text

/-! ## Writing -/

/-- The digit of a value below ten. -/
def digitChar (d : Nat) : Char :=
  Char.ofNat (48 + d)

/-- The digits of a natural number; zero is written `0`. -/
def digits (n : Nat) : List Char :=
  if n < 10 then [digitChar n] else digits (n / 10) ++ [digitChar (n % 10)]

/-- The digits of a natural number behind zeros up to `width` characters; a longer number keeps all
its digits. -/
def zeroPadded (width n : Nat) : List Char :=
  List.replicate (width - (digits n).length) '0' ++ digits n

/-- An integer: a minus sign if it is negative, then the digits of its absolute value. -/
def signedDigits (n : Int) : List Char :=
  if n < 0 then '-' :: digits n.natAbs else digits n.natAbs

/-! ## Reading -/

/-- The value of an ASCII digit. -/
def digitValue? (c : Char) : Option Nat :=
  if 48 ≤ c.toNat ∧ c.toNat ≤ 57 then some (c.toNat - 48) else none

/-- The value of a run of digits that follows digits of value `acc`. -/
def continueDigits? (acc : Nat) : List Char → Option Nat
  | [] => some acc
  | c :: cs => match digitValue? c with
    | some d => continueDigits? (10 * acc + d) cs
    | none => none

/-- The value of a nonempty run of digits; leading zeros are allowed. -/
def ofDigits? (cs : List Char) : Option Nat :=
  if cs.isEmpty then none else continueDigits? 0 cs

/-- A signed numeral of the 64-bit range: an optional sign, then digits. -/
def readInt64? (cs : List Char) : Option Int :=
  let value? : Option Int := match cs with
    | '-' :: ds => (ofDigits? ds).map fun n => -(n : Int)
    | '+' :: ds => (ofDigits? ds).map Int.ofNat
    | ds => (ofDigits? ds).map Int.ofNat
  value?.filter fun n => -(2 ^ 63 : Int) ≤ n ∧ n < 2 ^ 63

/-- An unsigned numeral below a bound: an optional plus sign, then digits. -/
def readNatBelow? (bound : Nat) (cs : List Char) : Option Nat :=
  let value? : Option Nat := match cs with
    | '+' :: ds => ofDigits? ds
    | ds => ofDigits? ds
  value?.filter (· < bound)

/-- An unsigned numeral of the 32-bit range. -/
def readNat32? (cs : List Char) : Option Nat :=
  readNatBelow? (2 ^ 32) cs

example : readInt64? ['-', '0', '7'] = some (-7) := by decide +kernel

example : readInt64? ['+', '-', '7'] = none := by decide +kernel

end OrderDesk.Text
