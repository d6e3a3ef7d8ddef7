import OrderDesk.Json.Token

/-!
# Reading JSON

A text is one value with nothing behind it but blanks. A comma stands between two items or members
and nowhere else.

## Main definitions

* `OrderDesk.Json.value?`: a value at the start of a row of tokens.
* `OrderDesk.Json.parse?`: the value of a text.
-/

set_option autoImplicit false

namespace OrderDesk.Json

mutual

/-- A value at the start of the tokens, and the tokens behind it. -/
def value? : Nat → List Token → Option (Json × List Token)
  | _, .null :: rest => some (null, rest)
  | _, .bool b :: rest => some (bool b, rest)
  | _, .number n :: rest => some (number n, rest)
  | _, .string text :: rest => some (string text, rest)
  | _, .openArray :: .closeArray :: rest => some (array [], rest)
  | _, .openObject :: .closeObject :: rest => some (object [], rest)
  | fuel + 1, .openArray :: rest =>
    (items? fuel rest).map fun (items, rest) => (array items, rest)
  | fuel + 1, .openObject :: rest =>
    (members? fuel rest).map fun (members, rest) => (object members, rest)
  | _, _ => none

/-- The items of an array, at least one, and the tokens behind its end. -/
def items? : Nat → List Token → Option (List Json × List Token)
  | 0, _ => none
  | fuel + 1, tokens => match value? fuel tokens with
    | some (item, .closeArray :: rest) => some ([item], rest)
    | some (item, .comma :: rest) =>
      (items? fuel rest).map fun (items, rest) => (item :: items, rest)
    | _ => none

/-- The members of an object, at least one, and the tokens behind its end. -/
def members? : Nat → List Token → Option (List (Option String × Json) × List Token)
  | fuel + 1, .string name :: .colon :: tokens => match value? fuel tokens with
    | some (value, .closeObject :: rest) => some ([(name, value)], rest)
    | some (value, .comma :: rest) =>
      (members? fuel rest).map fun (members, rest) => ((name, value) :: members, rest)
    | _ => none
  | _, _ => none

end

/-- The value of a text. Every step of the reading takes a token or opens an array, so that twice as
many steps as there are tokens suffice. -/
def parse? (s : String) : Option Json := do
  let tokens ← tokens? s.toList
  match value? (2 * tokens.length) tokens with
  | some (json, []) => some json
  | _ => none

example : (parse? " [1, \x7b\"a\" : \"\\ud83d\\ude00\"\x7d, -2.50e1] ").map text =
    some "[1,\x7b\"a\":\"😀\"\x7d,-2.50e1]" := by
  decide +kernel

example : (parse? "[1,]").isNone ∧ (parse? "01").isNone ∧ (parse? "1 2").isNone := by
  decide +kernel

end OrderDesk.Json
