import OrderDesk.Decimal.Binary64
import OrderDesk.Uuid

/-!
# JSON values

The values of JSON and their shortest written form. Numbers are kept as they are written, since
what a number means depends on the field in which it stands.

## Main definitions

* `OrderDesk.Json`: the values.
* `OrderDesk.Json.Numeral`: a written number.
* `OrderDesk.Json.Numeral.toInt?`, `OrderDesk.Json.Numeral.toDecimal?`: the meanings of a number.
* `OrderDesk.Json.chars`, `OrderDesk.Json.text`: the written form.
-/

set_option autoImplicit false

namespace OrderDesk

/-- A written number: the digits before and behind the point, and an exponent if there is one. -/
structure Json.Numeral where
  negative : Bool
  whole : List Nat
  fraction : List Nat
  exponent : Option Int
deriving DecidableEq

/-- A JSON value. A string that holds one half of a surrogate pair is no text. -/
inductive Json where
  | null
  | bool (b : Bool)
  | number (n : Json.Numeral)
  | string (text : Option String)
  | array (items : List Json)
  | object (members : List (Option String × Json))

namespace Json

instance : Inhabited Json :=
  ⟨null⟩

/-- A text as a value. -/
def ofText (s : String) : Json :=
  string (some s)

/-- An object with the given members. -/
def ofMembers (members : List (String × Json)) : Json :=
  object (members.map fun (name, value) => (some name, value))

/-- A value that may be missing. -/
def ofOption {α : Type} (toJson : α → Json) (a : Option α) : Json :=
  a.elim null toJson

/-! ## Numbers -/

namespace Numeral

/-- The digits of a natural number, as values. -/
def digitsOf (n : Nat) : List Nat :=
  if n < 10 then [n] else digitsOf (n / 10) ++ [n % 10]

/-- A whole number. -/
def ofInt (n : Int) : Numeral :=
  { negative := n < 0, whole := digitsOf n.natAbs, fraction := [], exponent := none }

/-- The number has neither a point nor an exponent. -/
def isWhole (n : Numeral) : Bool :=
  n.fraction.isEmpty && n.exponent.isNone

/-- The number that digits spell behind digits of value `acc`. -/
def valueFrom (acc : Nat) (ds : List Nat) : Nat :=
  ds.foldl (fun value d => 10 * value + d) acc

/-- A whole number from `-2 ^ 63` to `2 ^ 64 - 1`. A zero with a minus sign is not taken for a whole
number. -/
def toInt? (n : Numeral) : Option Int :=
  let magnitude := valueFrom 0 n.whole
  if !n.isWhole then none
  else if n.negative then
    if 0 < magnitude ∧ magnitude ≤ 2 ^ 63 then some (-(magnitude : Int)) else none
  else if magnitude < 2 ^ 64 then some magnitude else none

/-- The value of the digits that fit into 64 bits, and the digits that are left. -/
def significant (acc : Nat) : List Nat → Nat × List Nat
  | [] => (acc, [])
  | d :: ds => if 10 * acc + d < 2 ^ 64 then significant (10 * acc + d) ds else (acc, d :: ds)

/-- The significand of at most 64 bits and the power of ten that stand for a number. Digits that do
not fit are dropped; dropped digits before the point count for the power. -/
def parts (n : Numeral) : Nat × Int :=
  let (high, dropped) := significant 0 n.whole
  let (significand, rest) := significant high n.fraction
  let places := n.fraction.length - rest.length
  (significand, (dropped.length : Int) - (places : Int) + n.exponent.getD 0)

/-- The decimal number that a written number stands for: a whole number of 64 bits itself, any other
number by way of its binary approximation. -/
def toDecimal? (n : Numeral) : Option Decimal :=
  match n.toInt? with
  | some k => Decimal.make? k 0
  | none =>
    let (significand, exponent) := n.parts
    (Binary64.ofParts? significand exponent).bind (Binary64.toDecimal? n.negative)

/-- The written form of a number. -/
def chars (n : Numeral) : List Char :=
  (if n.negative then ['-'] else []) ++ n.whole.map Text.digitChar ++
    (if n.fraction.isEmpty then [] else '.' :: n.fraction.map Text.digitChar) ++
    (match n.exponent with
      | some e => 'e' :: Text.signedDigits e
      | none => [])

end Numeral

/-- A whole number as a value. -/
def ofInt (n : Int) : Json :=
  number (.ofInt n)

/-! ## Strings -/

/-- A character of a string: quotes, backslashes and control characters are escaped. -/
def escape (c : Char) : List Char :=
  if c = '"' then ['\\', '"']
  else if c = '\\' then ['\\', '\\']
  else if c = '\n' then ['\\', 'n']
  else if c = '\r' then ['\\', 'r']
  else if c = '\t' then ['\\', 't']
  else if c.toNat = 8 then ['\\', 'b']
  else if c.toNat = 12 then ['\\', 'f']
  else if c.toNat < 32 then '\\' :: 'u' :: hexDigits 4 c.toNat
  else [c]

/-- A string with its quotes. -/
def quoted (text : Option String) : List Char :=
  match text with
  | some s => '"' :: (s.toList.flatMap escape ++ ['"'])
  | none => ['"', '\\', 'u', 'd', '8', '0', '0', '"']

/-! ## Values -/

mutual

/-- The written form of a value, without blanks. -/
def chars : Json → List Char
  | null => ['n', 'u', 'l', 'l']
  | bool true => ['t', 'r', 'u', 'e']
  | bool false => ['f', 'a', 'l', 's', 'e']
  | number n => n.chars
  | string text => quoted text
  | array items => '[' :: (itemsChars items ++ [']'])
  | object members => '\x7b' :: (membersChars members ++ ['\x7d'])

/-- The written form of the items of an array. -/
def itemsChars : List Json → List Char
  | [] => []
  | [item] => item.chars
  | item :: item' :: items => item.chars ++ ',' :: itemsChars (item' :: items)

/-- The written form of the members of an object. -/
def membersChars : List (Option String × Json) → List Char
  | [] => []
  | [(name, value)] => quoted name ++ ':' :: value.chars
  | (name, value) :: member :: members =>
    quoted name ++ ':' :: (value.chars ++ ',' :: membersChars (member :: members))

end

/-- The written form of a value as a text. -/
def text (json : Json) : String :=
  String.ofList json.chars

example : text (ofMembers [("a", array [null, ofInt (-12)]), ("b", ofText "x\"\n")]) =
    "\x7b\"a\":[null,-12],\"b\":\"x\\\"\\n\"\x7d" := by
  decide +kernel

end Json

end OrderDesk
