import OrderDesk.Decimal.Basic
import OrderDesk.Text.Numeral

/-!
# Written decimals

How a decimal is written, plainly or with a fixed number of places, and which texts are read as one.

A reader takes an optional sign, digits with at most one point, and underscores after the first
digit. Once a further digit would no longer fit behind the point, that digit rounds the number, a
five upwards, and the digits behind it make no difference. A text that is not read this way may
still be a number of this kind with an exponent.

## Main definitions

* `OrderDesk.Decimal.text`: all digits and places.
* `OrderDesk.Decimal.truncated`: a fixed number of places, further ones cut off.
* `OrderDesk.Decimal.readPlain?`, `OrderDesk.Decimal.readScientific?`, `OrderDesk.Decimal.read?`.
-/

set_option autoImplicit false

namespace OrderDesk.Decimal

open Text

/-! ## Writing -/

/-- The integer part, written without sign. -/
def integerPart (a : Decimal) : List Char :=
  digits (a.coefficient.natAbs / 10 ^ a.scale)

/-- The places, as many digits as the scale says. -/
def places (a : Decimal) : List Char :=
  if a.scale = 0 then [] else zeroPadded a.scale (a.coefficient.natAbs % 10 ^ a.scale)

/-- The sign of a negative number. -/
def sign (a : Decimal) : List Char :=
  if a.isNegative then ['-'] else []

/-- All digits: at least one before the point, and no point without places. -/
def chars (a : Decimal) : List Char :=
  a.sign ++ a.integerPart ++ (if a.scale = 0 then [] else '.' :: a.places)

/-- All digits, as text. -/
def text (a : Decimal) : String :=
  String.ofList a.chars

/-- The number with exactly two places: further places are cut off, missing ones are zeros. The sign
is kept even where only zeros are left. -/
def truncated (a : Decimal) : String :=
  String.ofList (a.sign ++ a.integerPart ++ '.' :: (a.places ++ ['0', '0']).take 2)

/-- A decimal is shown with all of its places. -/
instance : ToString Decimal :=
  ⟨text⟩

/-! ## Reading -/

/-- A character that may stand behind the digits that fit: another digit or an underscore. -/
def isTail (c : Char) : Bool :=
  (digitValue? c).isSome || c == '_'

/-- The number rounded by the first digit that no longer fits: from five on it is rounded up. The
digits behind that one make no difference. -/
def roundLastPlace? (coefficient scale digit : Nat) (tail : List Char) : Option (Nat × Nat) :=
  if !tail.all isTail then none
  else if digit < 5 then some (coefficient, scale)
  else if coefficient + 1 < 2 ^ 96 then some (coefficient + 1, scale)
  else if scale = 0 then none
  else some ((coefficient + 5) / 10, scale - 1)

/-- The digits before the last place are few: with one digit more they fit into 64 bits, by a wide
margin. -/
def areFew (coefficient : Nat) : Bool :=
  coefficient < 2 ^ 64 / 10 - 255

/-- The digits and places of a number without sign. `point` says that the point has been read,
`started` that a digit has. Directly behind the last place of few digits an underscore counts as a
zero that no longer fits. -/
def readDigits? (point started : Bool) (coefficient scale : Nat) : List Char → Option (Nat × Nat)
  | [] => if started then some (coefficient, scale) else none
  | c :: cs => match digitValue? c with
    | some d =>
      if scale < 28 ∧ 10 * coefficient + d < 2 ^ 96 then
        if point ∧ scale = 27 ∧ areFew coefficient ∧ cs.head? = some '_' then
          roundLastPlace? (10 * coefficient + d) 28 0 cs
        else readDigits? point true (10 * coefficient + d) (if point then scale + 1 else scale) cs
      else if point then roundLastPlace? coefficient scale d cs
      else none
    | none =>
      if c = '.' ∧ point = false then readDigits? true started coefficient scale cs
      else if c = '_' ∧ started then readDigits? point started coefficient scale cs
      else none

/-- A number with an optional sign and no exponent. -/
def readPlain? (cs : List Char) : Option Decimal :=
  match cs with
  | '-' :: ds => match readDigits? false false 0 0 ds with
    | some (coefficient, scale) => make? (-(coefficient : Int)) scale
    | none => none
  | '+' :: ds => match readDigits? false false 0 0 ds with
    | some (coefficient, scale) => make? coefficient scale
    | none => none
  | ds => match readDigits? false false 0 0 ds with
    | some (coefficient, scale) => make? coefficient scale
    | none => none

/-- The number times a power of ten, if it can be written: places are taken away first, then zeros
are put behind the digits. -/
def scaleUp? (a : Decimal) (exponent : Nat) : Option Decimal :=
  if exponent ≤ a.scale then make? a.coefficient (a.scale - exponent)
  else make? (a.coefficient * 10 ^ (exponent - a.scale)) 0

/-- The number divided by a power of ten. Places behind the last possible one are rounded away, a
half away from zero. -/
def scaleDown? (a : Decimal) (exponent : Nat) : Option Decimal :=
  let unit := 10 ^ (a.scale + exponent - 28)
  let magnitude := (a.coefficient.natAbs + unit / 2) / unit
  (make? (a.coefficient.sign * magnitude) (min 28 (a.scale + exponent))).map
    (withSign (a.coefficient < 0))

/-- An exponent goes up to the number of places that a decimal may have. -/
def readExponent? (cs : List Char) : Option Nat :=
  (readNat32? cs).filter (· ≤ 28)

/-- A number without exponent, the letter `e` in either case, and an exponent. -/
def readScientific? (cs : List Char) : Option Decimal :=
  let isMark := fun c => c == 'e' || c == 'E'
  match readPlain? (cs.takeWhile fun c => !isMark c), cs.dropWhile fun c => !isMark c with
  | some base, _ :: '-' :: exponent => (readExponent? exponent).bind base.scaleDown?
  | some base, _ :: exponent => (readExponent? exponent).bind base.scaleUp?
  | _, _ => none

/-- A written number, with or without an exponent. -/
def read? (s : String) : Option Decimal :=
  match readPlain? s.toList with
  | some a => some a
  | none => readScientific? s.toList

example : (read? "1_000.50").map text = some "1000.50" := by decide +kernel

example : (read? "-1E-2").map text = some "-0.01" := by decide +kernel

example : (read? "2.5e-28").map text = some "0.0000000000000000000000000003" := by decide +kernel

example : (read? "-0.999").map truncated = some "-0.99" := by decide +kernel

end OrderDesk.Decimal
