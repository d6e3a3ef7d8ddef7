/-!
# Base 64

Octets written with 64 digits: three octets as four digits, and one or two octets at the end as two
or three digits that are padded to four characters.

## Main definitions

* `OrderDesk.Text.base64Digit?`: the value of a digit.
* `OrderDesk.Text.octetsOfBase64?`: the octets of a text.
-/

set_option autoImplicit false

namespace OrderDesk.Text

/-- The value of a digit: letters, decimal digits and two marks. -/
def base64Digit? (c : Char) : Option Nat :=
  if c.isUpper then some (c.toNat - 'A'.toNat)
  else if c.isLower then some (c.toNat - 'a'.toNat + 26)
  else if c.isDigit then some (c.toNat - '0'.toNat + 52)
  else if c = '+' then some 62
  else if c = '/' then some 63
  else none

/-- The octets of a text. Padding ends it, and the bits that are padded away are zero. -/
def octetsOfBase64? : List Char → Option (List Nat)
  | [] => some []
  | [a, b, '=', '='] => do
    let n := 64 * (← base64Digit? a) + (← base64Digit? b)
    if n % 16 = 0 then some [n / 16] else none
  | [a, b, c, '='] => do
    let n := 64 * (64 * (← base64Digit? a) + (← base64Digit? b)) + (← base64Digit? c)
    if n % 4 = 0 then some [n / 1024, n / 4 % 256] else none
  | a :: b :: c :: d :: cs => do
    let high := 64 * (← base64Digit? a) + (← base64Digit? b)
    let low := 64 * (← base64Digit? c) + (← base64Digit? d)
    return high / 16 :: (high % 16 * 16 + low / 256) :: low % 256 :: (← octetsOfBase64? cs)
  | _ => none

example : octetsOfBase64? "QUJDRA==".toList = some [65, 66, 67, 68] := by decide +kernel

example : octetsOfBase64? "QUJ=".toList = none := by decide +kernel

end OrderDesk.Text
