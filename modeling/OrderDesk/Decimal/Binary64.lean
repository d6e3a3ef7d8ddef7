import OrderDesk.Decimal.Written

/-!
# Binary floating point numbers

Some senders write a quantity or a price as a floating point number. Such a number is first taken to
a binary number of 53 bits and then to the decimal with the fewest digits that lies nearest to it.

## Main definitions

* `OrderDesk.Binary64`: a nonnegative binary number `mantissa * 2 ^ exponent`.
* `OrderDesk.Binary64.ofRatio?`: the binary number nearest to a quotient.
* `OrderDesk.Binary64.ofParts?`: the binary number of digits and a decimal exponent, in two rounded
  steps.
* `OrderDesk.Binary64.shortest`: the fewest decimal digits that are nearest to the number.
-/

set_option autoImplicit false

namespace OrderDesk

/-- The nonnegative number `mantissa * 2 ^ exponent`. -/
structure Binary64 where
  mantissa : Nat
  exponent : Int
deriving DecidableEq

namespace Binary64

open Text

/-! ## Nearest binary number -/

/-- The numerator of the number as a quotient. -/
def numerator (b : Binary64) : Nat :=
  b.mantissa * 2 ^ b.exponent.toNat

/-- The denominator of the number as a quotient. -/
def denominator (b : Binary64) : Nat :=
  2 ^ (-b.exponent).toNat

/-- The exponent at which the quotient `n / d` has 53 bits; small numbers have fewer. -/
def exponentOf (n d : Nat) : Int :=
  let bits : Int := (n.log2 : Int) - d.log2
  let reached := d * 2 ^ bits.toNat ≤ n * 2 ^ (-bits).toNat
  max (if reached then bits - 52 else bits - 53) (-1074)

/-- The binary number nearest to `n / d`, a half to the even neighbour; `none` when it is out of
range. -/
def ofRatio? (n d : Nat) : Option Binary64 :=
  if n = 0 then some ⟨0, 0⟩
  else
    let e := exponentOf n d
    let m := Decimal.roundHalfEven (n * 2 ^ (-e).toNat) (d * 2 ^ e.toNat)
    let b : Binary64 := if m = 2 ^ 53 then ⟨2 ^ 52, e + 1⟩ else ⟨m, e⟩
    if 971 < b.exponent then none else some b

/-- The product, rounded. -/
def product? (a b : Binary64) : Option Binary64 :=
  ofRatio? (a.numerator * b.numerator) (a.denominator * b.denominator)

/-- The quotient, rounded. -/
def quotient? (a b : Binary64) : Option Binary64 :=
  ofRatio? (a.numerator * b.denominator) (a.denominator * b.numerator)

/-- The binary number nearest to a power of ten. -/
def powerOfTen? (k : Nat) : Option Binary64 :=
  ofRatio? (10 ^ k) 1

/-- The number divided `steps` times by `10 ^ 308`, until the exponent left is at least `-308`. -/
def scaleDown? (b : Binary64) (exponent : Int) : Nat → Option Binary64
  | 0 => some ⟨0, 0⟩
  | steps + 1 => do
    if b.mantissa = 0 then some b
    else if -308 ≤ exponent then quotient? b (← powerOfTen? exponent.natAbs)
    else scaleDown? (← quotient? b (← powerOfTen? 308)) (exponent + 308) steps

/-- The number `significand * 10 ^ exponent`: the significand is rounded first and the power of ten
applied after it, so that the result may differ from the nearest one in its last bit. -/
def ofParts? (significand : Nat) (exponent : Int) : Option Binary64 := do
  let b ← ofRatio? significand 1
  if 0 ≤ exponent then
    if exponent ≤ 308 then product? b (← powerOfTen? exponent.natAbs)
    else if b.mantissa = 0 then some b
    else none
  else scaleDown? b exponent 4

/-! ## Shortest decimal digits -/

/-- The least `p` with `n / d < 10 ^ p`. -/
def decimalExponent (n d : Nat) : Int :=
  let estimate : Int := ((digits n).length : Int) - (digits d).length
  if n * 10 ^ (-estimate).toNat < d * 10 ^ estimate.toNat then estimate else estimate + 1

/-- Twice the numbers at the two ends of the interval that is rounded to `b`, and whether the ends
belong to it, over the denominator `4 * b.denominator`. -/
def interval (b : Binary64) : Nat × Nat × Bool :=
  let unit := 2 ^ b.exponent.toNat
  let below := if b.mantissa = 2 ^ 52 ∧ -1074 < b.exponent then unit else 2 * unit
  (4 * b.numerator - below, 4 * b.numerator + 2 * unit, b.mantissa % 2 = 0)

/-- The decimal of at most `count` digits that is nearest to the number among those that are rounded
to it, with its power of ten; of two equally near ones the larger. Above a row of nines the next
decimal is a power of ten, a single digit. -/
def nearestWithDigits? (b : Binary64) (count : Nat) : Option (Nat × Int) :=
  let (low, high, closed) := b.interval
  let unit : Int := decimalExponent b.numerator b.denominator - count
  let up := 10 ^ (-unit).toNat
  let down := 10 ^ unit.toNat
  let inside := fun k : Nat =>
    let scaled := k * down * (4 * b.denominator)
    if closed then low * up ≤ scaled && scaled ≤ high * up
    else low * up < scaled && scaled < high * up
  let floor := b.numerator * up / (b.denominator * down)
  let remainder := b.numerator * up % (b.denominator * down)
  let nearer :=
    if 2 * remainder < b.denominator * down then [floor, floor + 1] else [floor + 1, floor]
  (nearer.find? inside).map fun k => if k = 10 ^ count then (1, unit + count) else (k, unit)

/-- The fewest digits of a decimal that is rounded to the number, with their power of ten. -/
def shortest (b : Binary64) : Nat × Int :=
  if b.mantissa = 0 then (0, 0)
  else ((List.range 17).findSome? fun i => b.nearestWithDigits? (i + 1)).getD
    (b.numerator / b.denominator, 0)

/-- The digits of a number and its power of ten, written without exponent. -/
def positional (significand : Nat) (power : Int) : List Char :=
  if 0 ≤ power then digits (significand * 10 ^ power.toNat)
  else
    let places := (-power).toNat
    digits (significand / 10 ^ places) ++ '.' :: zeroPadded places (significand % 10 ^ places)

/-- The shortest decimal of the number; `none` when it has too many digits before the point. -/
def toDecimal? (negative : Bool) (b : Binary64) : Option Decimal :=
  let written := positional b.shortest.1 b.shortest.2
  Decimal.readPlain? (if negative then '-' :: written else written)

example : ((ofParts? 1 (-1)).bind (toDecimal? false)).map Decimal.text = some "0.1" := by
  decide +kernel

example : ((ofParts? 5 (-324)).map shortest) = some (5, -324) := by decide +kernel

example : ((ofParts? 1 (-7)).map shortest) = some (1, -7) := by decide +kernel

end Binary64

end OrderDesk
