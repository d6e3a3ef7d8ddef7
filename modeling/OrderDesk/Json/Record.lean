import OrderDesk.Json.Reader

/-!
# JSON records

A record is an object with named fields. Fields may come in any order and fields of other names are
not looked at, but no field of the record comes twice. A record may also be an array of the values
of its fields in their order.

## Main definitions

* `OrderDesk.Json.fields?`: the values of the fields of a record.
* `OrderDesk.Json.required`, `OrderDesk.Json.optional`: a field that must, or need not, be there.
* `OrderDesk.Json.variant?`: the name of a value without contents.
-/

set_option autoImplicit false

namespace OrderDesk.Json

/-- The values of the members with a name. -/
def valuesOf (name : String) (members : List (Option String × Json)) : List Json :=
  (members.filter (·.1 == some name)).map Prod.snd

/-- The values of the named fields of an object. All names have to be texts. -/
def objectFields? (names : List String) (members : List (Option String × Json)) :
    Option (List (Option Json)) :=
  if members.all (·.1.isSome) then
    names.mapM fun name => match valuesOf name members with
      | [] => some none
      | [value] => some (some value)
      | _ => none
  else none

/-- The values of `count` fields in an array; as many as `omittable` may be missing at its end. -/
def arrayFields? (count omittable : Nat) (items : List Json) : Option (List (Option Json)) :=
  if items.length ≤ count ∧ count ≤ items.length + omittable then
    some (items.map some ++ List.replicate (count - items.length) none)
  else none

/-- The values of the named fields, in the order of their names. In an array the last `omittable`
ones may be missing; of an object all may, as far as the names go. -/
def fields? (names : List String) (omittable : Nat) : Json → Option (List (Option Json))
  | object members => objectFields? names members
  | array items => arrayFields? names.length omittable items
  | _ => none

/-- A field that must be there. -/
def required {α : Type} (value : Option Json) (read : Json → Option α) : Option α :=
  value.bind read

/-- A field that may be missing or null. -/
def optional {α : Type} (value : Option Json) (read : Json → Option α) : Option (Option α) :=
  match value with
  | none | some null => some none
  | some json => (read json).map some

/-! ## Single values -/

/-- A text. -/
def text? : Json → Option String
  | string text => text
  | _ => none

/-- A truth value. -/
def bool? : Json → Option Bool
  | bool b => some b
  | _ => none

/-- A whole number of 64 bits with sign. -/
def int64? : Json → Option Int
  | number n => n.toInt?.filter (· < 2 ^ 63)
  | _ => none

/-- A whole number of 64 bits without sign. -/
def nat64? : Json → Option Nat
  | number n => n.toInt?.bind Int.toNat?
  | _ => none

/-- The name of a value without contents: a text, or an object whose single member of that name is
null. -/
def variant? : Json → Option String
  | string text => text
  | object [(name, null)] => name
  | _ => none

end OrderDesk.Json
