import OrderDesk.Config.Basic
import OrderDesk.Json.Record

/-!
# Configurations as JSON

The settings as an object of sections, and the log settings of such a section. A log setting that is
missing has its default; settings that are not known are not looked at.
-/

set_option autoImplicit false

namespace OrderDesk

open Json

/-- The fields of the log settings. -/
def LoggingConfig.fieldNames : List String :=
  ["level", "format", "include_spans"]

/-- The log settings as JSON. -/
def LoggingConfig.toJson (logging : LoggingConfig) : Json :=
  .ofMembers [
    ("level", .ofText logging.level),
    ("format", .ofText logging.format),
    ("include_spans", .bool logging.includeSpans)]

/-- A setting of a JSON value, or its default. A setting that is null is not missing. -/
def LoggingConfig.setting {α : Type} (value : Option Json) (read : Json → Option α) (default : α) :
    Option α :=
  value.elim (some default) read

/-- The log settings of a JSON value. -/
def LoggingConfig.ofJson? (json : Json) : Option LoggingConfig := do
  match ← fields? fieldNames fieldNames.length json with
  | [level, format, includeSpans] =>
    return {
      level := ← setting level text? LoggingConfig.default.level
      format := ← setting format text? LoggingConfig.default.format
      includeSpans := ← setting includeSpans bool? LoggingConfig.default.includeSpans }
  | _ => none

/-- The settings as JSON. -/
def Config.toJson (config : Config) : Json :=
  .ofMembers [
    ("service", .ofMembers [("name", .ofText config.name)]),
    ("observability", .ofMembers [("logging", config.logging.toJson)]),
    ("transactions", .ofMembers [("lock_timeout_ms", .ofInt config.lockTimeoutMs)]),
    ("listing", .ofMembers [("default_limit", .ofInt config.defaultListLimit)])]

end OrderDesk
