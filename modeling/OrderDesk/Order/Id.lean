import OrderDesk.Identifier
import OrderDesk.Text.Segments
import OrderDesk.Time.Instant
import OrderDesk.Uuid

/-!
# The grammar of order IDs

An order ID is a row of segments behind underscores that starts with `ord`. There are three ways to
draw a new one:

* standard: `ord_20260119_120000_1a2b3c4d_alice`, the UTC date and time, a random token, the user;
* timestamped: `ord_1768824000_1a2b3c4d_alice`, the seconds since 1970, a random token, the user;
* simple: `ord_1a2b3c4d5e6f_7a8b9c0d1e2f`, two random tokens.

Reading looks at the positions of segments only: the user of a name with an underscore is its last
piece.

## Main definitions

* `OrderDesk.OrderId.standard`, `OrderDesk.OrderId.timestamped`, `OrderDesk.OrderId.simple`.
* `OrderDesk.OrderId.parse`: the components of an order ID.
* `OrderDesk.OrderId.describe`: a summary that never fails.
-/

set_option autoImplicit false

namespace OrderDesk

/-- Why a text is not an order ID. -/
inductive OrderIdError where
  | tooFewSegments
  | invalidPrefix (found : String)
deriving DecidableEq

/-- The wording of a rejected order ID. -/
def OrderIdError.message : OrderIdError → String
  | tooFewSegments => "Invalid order ID format: expected at least 3 parts separated by '_'"
  | invalidPrefix found => "Invalid order ID prefix: expected 'ord', got '" ++ found ++ "'"

namespace OrderId

open Text

/-! ## Drawing a new order ID -/

/-- The first eight digits of a random identifier. -/
def token (u : Uuid) : List Char :=
  u.hexDigits.take 8

/-- The user at the end of an order ID; no name and the empty name leave nothing. -/
def userSuffix (username : Option String) : List Char :=
  match username with
  | none => []
  | some name => if name.isEmpty then [] else '_' :: name.toList

/-- The date and the time of day, each as one run of digits. -/
def dateAndTime (t : Instant) : List Char :=
  yearText t.date.year ++ zeroPadded 2 t.date.month ++ zeroPadded 2 t.date.day ++ '_' ::
    zeroPadded 2 t.hour ++ zeroPadded 2 t.minute ++ zeroPadded 2 (t.second + t.nanos / 1000000000)

/-- An order ID with the date and the time of day. -/
def standard (t : Instant) (u : Uuid) (username : Option String) : OrderId :=
  ⟨String.ofList (['o', 'r', 'd', '_'] ++ dateAndTime t ++ '_' :: token u ++ userSuffix username)⟩

/-- An order ID with the seconds since 1970. -/
def timestamped (t : Instant) (u : Uuid) (username : Option String) : OrderId :=
  ⟨String.ofList
    (['o', 'r', 'd', '_'] ++ signedDigits t.seconds ++ '_' :: token u ++ userSuffix username)⟩

/-- An order ID of two random tokens. -/
def simple (u : Uuid) : OrderId :=
  ⟨String.ofList
    (['o', 'r', 'd', '_'] ++ u.hexDigits.take 12 ++ '_' :: (u.hexDigits.drop 12).take 12)⟩

/-! ## Reading an order ID -/

/-- What the positions of an order ID's segments say. -/
structure Components where
  /-- The first segment. -/
  start : String
  /-- The last segment. -/
  uniqueId : String
  /-- The last segment, if there are at least four. -/
  username : Option String
  /-- The second segment, if it is a number of the 64-bit range. -/
  unixTimestamp : Option Int
deriving DecidableEq

/-- The components of an order ID: at least three segments, the first of them `ord`. -/
def parse (s : String) : Except OrderIdError Components :=
  match segments '_' s.toList with
  | first :: second :: third :: rest =>
    let last := String.ofList ((third :: rest).getLast (by simp))
    if first = ['o', 'r', 'd'] then
      .ok {
        start := String.ofList first
        uniqueId := last
        username := if rest.isEmpty then none else some last
        unixTimestamp := readInt64? second }
    else .error (.invalidPrefix (String.ofList first))
  | _ => .error .tooFewSegments

/-- Whether a text is an order ID. -/
def isValid (s : String) : Bool :=
  match parse s with
  | .ok _ => true
  | .error _ => false

/-- The kind of a valid order ID. -/
inductive Format where
  /-- The second segment is a number. -/
  | timestamped
  /-- Anything else. -/
  | standard
deriving DecidableEq

/-- The name of a kind. -/
def Format.name : Format → String
  | timestamped => "timestamped"
  | standard => "standard"

/-- A summary of a text as an order ID. -/
structure Description where
  valid : Bool
  format : Option Format
  components : Option Components
  error : Option String
deriving DecidableEq

/-- The summary of a text: its components and kind, or what is wrong with it. -/
def describe (s : String) : Description :=
  match parse s with
  | .ok components =>
    { valid := true
      format := some (if components.unixTimestamp.isSome then .timestamped else .standard)
      components := some components
      error := none }
  | .error e => { valid := false, format := none, components := none, error := some e.message }

example : (parse "ord_7_tok_bob_99").toOption.map (·.username) = some (some "99") := by
  decide +kernel

end OrderId

end OrderDesk
