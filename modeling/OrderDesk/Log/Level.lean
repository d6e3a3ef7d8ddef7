import OrderDesk.Text.Uppercase

/-!
# Log levels

Five levels of importance. A level admits every event that is at least as important.
-/

set_option autoImplicit false

namespace OrderDesk

/-- How important an event is, from the least to the most. -/
inductive LogLevel where
  | trace
  | debug
  | info
  | warn
  | error
deriving DecidableEq, Inhabited

namespace LogLevel

/-- All levels, the least important first. -/
def all : List LogLevel :=
  [trace, debug, info, warn, error]

/-- The name in lowercase. -/
def name : LogLevel → String
  | trace => "trace"
  | debug => "debug"
  | info => "info"
  | warn => "warn"
  | error => "error"

/-- The name in uppercase, as events show it. -/
def title (l : LogLevel) : String :=
  Text.asciiUppercase l.name

/-- The importance as a number from 1 to 5. -/
def rank : LogLevel → Nat
  | trace => 1
  | debug => 2
  | info => 3
  | warn => 4
  | error => 5

/-- The level of a name in lowercase. -/
def ofName? (s : String) : Option LogLevel :=
  all.find? (·.name == s)

/-- An event of level `event` passes where `threshold` is asked for. -/
def admits (threshold event : LogLevel) : Bool :=
  threshold.rank ≤ event.rank

end LogLevel

end OrderDesk
