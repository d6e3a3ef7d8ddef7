import OrderDesk.Decimal.Binary64
import OrderDesk.Json.Token

/-!
# Numbers in YAML

How whole numbers and binary floating point numbers are written in a plain scalar.

## Main definitions

* `OrderDesk.Yaml.natural?`: a number without a minus sign, in base 10, 16, 8 or 2.
* `OrderDesk.Yaml.integer?`: a number of one of these forms, with a minus sign or without.
* `OrderDesk.Yaml.Real`: the floating point numbers, equal if they are the same number.
* `OrderDesk.Yaml.real?`: a floating point number.
-/

set_option autoImplicit false

namespace OrderDesk.Yaml

open Text

/-! ## Whole numbers -/

/-- The value of a digit in a base up to 16. -/
def digitIn? (base : Nat) (c : Char) : Option Nat :=
  (Json.hexValue? c).filter (· < base)

/-- The value of a nonempty row of digits in a base. -/
def numeralIn? (base : Nat) (cs : List Char) : Option Nat :=
  if cs.isEmpty then none
  else cs.foldlM (fun value c => (digitIn? base c).map (base * value + ·)) 0

/-- A decimal numeral has no zero in front of other digits. -/
def hasLeadingZero : List Char → Bool
  | '0' :: c :: cs => (c :: cs).all Char.isDigit
  | _ => false

/-- A whole number without sign: decimal digits, or digits behind `0x`, `0o` or `0b`. -/
def unsigned? (cs : List Char) : Option Nat :=
  match cs with
  | '0' :: 'x' :: rest => numeralIn? 16 rest
  | '0' :: 'o' :: rest => numeralIn? 8 rest
  | '0' :: 'b' :: rest => numeralIn? 2 rest
  | _ => if hasLeadingZero cs then none else numeralIn? 10 cs

/-- A natural number, with an optional plus sign. -/
def natural? (cs : List Char) : Option Nat :=
  match cs with
  | '+' :: rest => unsigned? rest
  | _ => unsigned? cs

/-- A whole number, with an optional sign. -/
def integer? (cs : List Char) : Option Int :=
  match cs with
  | '-' :: rest => (unsigned? rest).map fun n => -(n : Int)
  | _ => (natural? cs).map Int.ofNat

/-! ## Floating point numbers -/

/-- A floating point number. Zero has no sign. -/
inductive Real where
  | nan
  | infinite (negative : Bool)
  | finite (negative : Bool) (magnitude : Binary64)
deriving DecidableEq

/-- The number is a whole number. -/
def Real.isInteger (r : Real) (n : Int) : Bool :=
  match r with
  | finite negative b =>
    (if negative then -(b.numerator : Int) else b.numerator) == n * b.denominator
  | _ => false

/-- The words for what is not finite. -/
def Real.words : List (String × Real) :=
  ([".nan", ".NaN", ".NAN"].map (·, nan)) ++
    (([".inf", ".Inf", ".INF", "+.inf", "+.Inf", "+.INF"]).map (·, infinite false)) ++
    (["-.inf", "-.Inf", "-.INF"].map (·, infinite true))

/-- The exponent of a number, if there is any. -/
def exponent? (cs : List Char) : Option Int :=
  match cs with
  | [] => some 0
  | c :: rest =>
    if c ≠ 'e' ∧ c ≠ 'E' then none
    else match rest with
      | '-' :: ds => (ofDigits? ds).map fun n => -(n : Int)
      | '+' :: ds => (ofDigits? ds).map Int.ofNat
      | ds => (ofDigits? ds).map Int.ofNat

/-- The number `significand * 10 ^ exponent`, to the nearest binary number; `none` when it is out of
range. A significand of `length` digits that are far behind the point is zero. -/
def nearest? (significand length : Nat) (exponent : Int) : Option Binary64 :=
  if significand = 0 ∨ exponent + length < -400 then some ⟨0, 0⟩
  else if 400 < exponent then none
  else Binary64.ofRatio? (significand * 10 ^ exponent.toNat) (10 ^ (-exponent).toNat)

/-- A finite number without sign: digits with at most one point and an optional exponent. -/
def magnitude? (cs : List Char) : Option Binary64 := do
  let whole := cs.takeWhile Char.isDigit
  let rest := cs.drop whole.length
  let places := match rest with
    | '.' :: ds => ds.takeWhile Char.isDigit
    | _ => []
  let behind := match rest with
    | '.' :: ds => ds.drop places.length
    | _ => rest
  let ds := whole ++ places
  let exponent ← exponent? behind
  nearest? (← ofDigits? ds) ds.length (exponent - places.length)

/-- A floating point number, with an optional sign. -/
def real? (s : String) : Option Real :=
  match Real.words.lookup s with
  | some r => some r
  | none => match s.toList with
    | '-' :: cs => (magnitude? cs).map fun b => .finite (0 < b.mantissa) b
    | '+' :: cs => (magnitude? cs).map (.finite false)
    | cs => (magnitude? cs).map (.finite false)

example : natural? "+0x1F".toList = some 31 := by decide +kernel

example : natural? "007".toList = none := by decide +kernel

example : real? "1e1" = real? "10.0" := by decide +kernel

end OrderDesk.Yaml
