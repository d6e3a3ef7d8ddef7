import OrderDesk.Json.Basic
import OrderDesk.Log.Filter

/-!
# Setting up the log

There is one log, and it is set up once. From then on it takes the records that its filter lets
pass; the first of them tells how it was set up.

## Main definitions

* `OrderDesk.LogRecord`: what may be logged.
* `OrderDesk.Log`: a log that has been set up.
* `OrderDesk.Log.install`: the log of a configuration, unless there is one already.
* `OrderDesk.Log.start`: the setting up of a log and what it logs by it.
-/

set_option autoImplicit false

namespace OrderDesk

/-- Why a log is not set up. -/
inductive LogSetupError where
  | invalidFilter (directive : String)
  | alreadyInstalled
deriving DecidableEq

/-- What may be logged. -/
structure LogRecord where
  level : LogLevel
  /-- The place that the record comes from. -/
  target : String
  fields : List (String × String)
deriving DecidableEq

/-- A record as JSON. -/
def LogRecord.toJson (r : LogRecord) : Json :=
  .ofMembers [
    ("level", .ofText r.level.title),
    ("target", .ofText r.target),
    ("fields", .ofMembers (r.fields.map fun (name, value) => (name, .ofText value)))]

/-- How records are written. -/
inductive LogFormat where
  /-- One JSON object a line. -/
  | json
  /-- Text for people. -/
  | pretty
deriving DecidableEq

/-- The format of a name; whatever is not pretty is JSON. -/
def LogFormat.ofName (s : String) : LogFormat :=
  if s = "pretty" then pretty else json

/-- A log that has been set up. -/
structure Log where
  filter : LogFilter
  format : LogFormat
deriving DecidableEq

namespace Log

/-- The record passes the filter of the log. -/
def takes (log : Log) (r : LogRecord) : Bool :=
  log.filter.enables r.target r.level

/-- The log of a configuration. A filter that cannot be read is noticed before a log that is there
already. -/
def install (current : Option Log) (environment : Option String) (config : LoggingConfig) :
    Except LogSetupError Log :=
  match LogFilter.choose environment config, current with
  | none, _ => .error (.invalidFilter config.level)
  | some _, some _ => .error .alreadyInstalled
  | some filter, none => .ok { filter, format := .ofName config.format }

/-- The record of a log that has been set up: the level and the format as they are configured, even
where the environment chose another filter. -/
def started (config : LoggingConfig) : LogRecord :=
  { level := .info
    target := "order_service::observability::logging"
    fields := [("message", "Logging initialized"), ("level", config.level),
      ("format", config.format)] }

/-- The setting up of a log: what came of it, the log that is there after it, and the records it has
taken. -/
def start (current : Option Log) (environment : Option String) (config : LoggingConfig) :
    Except LogSetupError Unit × Option Log × List LogRecord :=
  match install current environment config with
  | .ok log => (.ok (), some log, [started config].filter log.takes)
  | .error e => (.error e, current, [])

/-- The log that is there is never replaced. -/
theorem start_some (log : Log) (environment : Option String) (config : LoggingConfig) :
    (start (some log) environment config).2 = (some log, []) := by
  simp only [start, install]
  cases LogFilter.choose environment config <;> rfl

end Log

/-- The wording of a log that is not set up. -/
def LogSetupError.message : LogSetupError → String
  | invalidFilter directive => "invalid log filter '" ++ directive ++ "'"
  | alreadyInstalled =>
    "failed to initialize tracing subscriber: " ++
      "a global default trace dispatcher has already been set"

end OrderDesk
