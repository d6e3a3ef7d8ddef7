import OrderDesk.Log.Level
import OrderDesk.Service.Check

/-!
# Configuration

The settings of an order desk: its name, its log, how long a commit waits for the balance lock, and
how many orders a listing gives when it names no limit.

## Main definitions

* `OrderDesk.Config`, `OrderDesk.LoggingConfig`: the settings with their defaults.
* `OrderDesk.Config.validate`: the first setting that is out of its bounds.
* `OrderDesk.ConfigError`: why a configuration is not taken.
-/

set_option autoImplicit false

namespace OrderDesk

/-- The settings of the log. -/
structure LoggingConfig where
  level : String
  format : String
  includeSpans : Bool
deriving DecidableEq

/-- The settings of an order desk. -/
structure Config where
  name : String
  logging : LoggingConfig
  lockTimeoutMs : Nat
  defaultListLimit : Nat
deriving DecidableEq

/-- The log settings that hold where nothing is said. -/
def LoggingConfig.default : LoggingConfig :=
  { level := "info", format := "json", includeSpans := true }

/-- A setting that is out of its bounds. -/
inductive ConfigViolation where
  | emptyName
  | zeroLockTimeout
  | listLimitOutOfRange
  | unknownLogFormat
  | unknownLogLevel
deriving DecidableEq

/-- Why a configuration is not taken. -/
inductive ConfigError where
  | read (path : String)
  | parse
  | validation (violation : ConfigViolation)
deriving DecidableEq

namespace Config

/-- The settings that hold where nothing is said. -/
def default : Config :=
  { name := "order-service", logging := .default, lockTimeoutMs := 5000, defaultListLimit := 50 }

instance : Inhabited Config :=
  ⟨default⟩

/-- The formats of the log. -/
def logFormats : List String :=
  ["json", "pretty"]

/-- The levels of the log. -/
def logLevels : List String :=
  LogLevel.all.map LogLevel.name

/-- The first setting that is out of its bounds. Levels are known in any ASCII case. -/
def validate (config : Config) : Except ConfigViolation Unit :=
  if (Text.trim config.name).isEmpty then .error .emptyName
  else if config.lockTimeoutMs = 0 then .error .zeroLockTimeout
  else if config.defaultListLimit < Service.minListLimit ∨
      Service.maxListLimit < config.defaultListLimit then .error .listLimitOutOfRange
  else if config.logging.format ∉ logFormats then .error .unknownLogFormat
  else if Text.asciiLowercase config.logging.level ∉ logLevels then .error .unknownLogLevel
  else .ok ()

end Config

/-- Words in quotes, as a list. -/
def quotedList (words : List String) : String :=
  "[" ++ String.intercalate ", " (words.map fun word => "\"" ++ word ++ "\"") ++ "]"

/-- What is wrong with a setting. -/
def ConfigViolation.message : ConfigViolation → String
  | emptyName => "service.name must not be empty"
  | zeroLockTimeout => "transactions.lock_timeout_ms must be positive"
  | listLimitOutOfRange =>
    "listing.default_limit must be between " ++ toString Service.minListLimit ++ " and " ++
      toString Service.maxListLimit
  | unknownLogFormat =>
    "observability.logging.format must be one of: " ++ quotedList Config.logFormats
  | unknownLogLevel =>
    "observability.logging.level must be one of: " ++ quotedList Config.logLevels

/-- The wording of a setting that is out of its bounds. -/
def ConfigViolation.report (violation : ConfigViolation) : String :=
  "Config validation failed: " ++ violation.message

example : Config.default.validate.toOption = some () := by decide +kernel

end OrderDesk
