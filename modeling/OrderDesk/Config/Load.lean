import OrderDesk.Config.Basic
import OrderDesk.Config.Interpolation
import OrderDesk.Yaml.Parse
import OrderDesk.Yaml.Value

/-!
# Loading a configuration

A configuration is a YAML text with references to variables. Its settings stand in four sections,
each of which may be missing or empty. Settings that are not known are not looked at, but no name
may be written twice in a section.

The settings are read by their words first: a setting itself says whether `2026` is a text or a
number. Where that fails, the whole text is read as a tree of typed values instead, in which a word
says what it is; then a section may be null, and sections may take over entries of others.

## Main definitions

* `OrderDesk.Config.Reading`: how settings are found in a tree.
* `OrderDesk.Config.Reading.config?`: the settings of a tree.
* `OrderDesk.Config.byWords`, `OrderDesk.Config.byValues`: the two readings.
* `OrderDesk.Config.ofText`: the settings of a text.
* `OrderDesk.Config.ofFile`: the settings of the bytes of a file.
-/

set_option autoImplicit false

namespace OrderDesk

open Yaml

namespace Config

/-! ## Sections and settings -/

/-- How sections and settings are found in a tree. -/
structure Reading (α : Type) where
  /-- The entries of a section by their names. -/
  entries? : α → Option (List (String × α))
  text? : α → Option String
  bool? : α → Option Bool
  integer? : α → Option Int

namespace Reading

variable {α : Type}

/-- A setting with its default. It comes at most once. -/
def setting {β : Type} (entries : List (String × α)) (name : String) (read : α → Option β)
    (default : β) : Option β :=
  match entries.filter (·.1 == name) with
  | [] => some default
  | [(_, tree)] => read tree
  | _ => none

/-- A section with a single setting. -/
def single? {β : Type} (r : Reading α) (name : String) (read : α → Option β) (default : β)
    (tree : α) : Option β := do
  setting (← r.entries? tree) name read default

/-- A natural number of 64 bits. -/
def nat64? (r : Reading α) (tree : α) : Option Nat :=
  ((r.integer? tree).filter fun n => 0 ≤ n && n < 2 ^ 64).map Int.toNat

/-- The log settings of a section. -/
def logging? (r : Reading α) (tree : α) : Option LoggingConfig := do
  let entries ← r.entries? tree
  return {
    level := ← setting entries "level" r.text? LoggingConfig.default.level
    format := ← setting entries "format" r.text? LoggingConfig.default.format
    includeSpans := ← setting entries "include_spans" r.bool? LoggingConfig.default.includeSpans }

/-- The settings of a tree. -/
def config? (r : Reading α) (tree : α) : Option Config := do
  let sections ← r.entries? tree
  return {
    name := ← setting sections "service" (r.single? "name" r.text? default.name) default.name
    logging := ← setting sections "observability" (r.single? "logging" r.logging? .default)
      .default
    lockTimeoutMs := ← setting sections "transactions"
      (r.single? "lock_timeout_ms" r.nat64? default.lockTimeoutMs) default.lockTimeoutMs
    defaultListLimit := ← setting sections "listing"
      (r.single? "default_limit" r.nat64? default.defaultListLimit) default.defaultListLimit }

end Reading

/-! ## Reading by words -/

/-- The words of a setting of a kind: those of any scalar that is tagged as one of this kind, or
plain ones with a tag of their own or none. -/
def wordOf? (kind : String) : Node → Option String
  | .scalar true text => some text
  | .tagged tag (.scalar plain text) =>
    if tag = coreTag ++ kind ∨ (plain ∧ isLocalTag tag) then some text else none
  | _ => none

/-- The entries of a section by their names, which are scalars; no two scalars that are written as
names are equal. Nothing at all is an empty section. -/
def sectionOf? (d : Document) (node : Node) : Option (List (String × Node)) := do
  match (← d.target? node).untagged with
  | .scalar plain text => if plain ∧ text.isEmpty then some [] else none
  | .mapping entries =>
    if !distinctTexts entries then none
    else entries.mapM fun (name, value) => do return (← (← d.target? name).text?, value)
  | _ => none

/-- Each setting tells how its words are read. -/
def byWords (d : Document) : Reading Node where
  entries? := sectionOf? d
  text? node := (d.target? node).bind Node.text?
  bool? node := ((d.target? node).bind (wordOf? "bool")).bind truthOfWord?
  integer? node := ((d.target? node).bind (wordOf? "int")).bind fun word =>
    Yaml.integer? word.toList

/-! ## Reading by values -/

/-- The entries of a section by their names, which are texts. A section may be null. -/
def sectionOfValue? (value : Value) : Option (List (String × Value)) :=
  match value.untagged with
  | .null => some []
  | .mapping entries => entries.mapM fun (name, value) => match name.untagged with
    | .text name => some (name, value)
    | _ => none
  | _ => none

/-- Each value has a type of its own. -/
def byValues : Reading Value where
  entries? := sectionOfValue?
  text? value := match value.untagged with
    | .text s => some s
    | _ => none
  bool? value := match value.untagged with
    | .bool b => some b
    | _ => none
  integer? value := match value.untagged with
    | .integer n => some n
    | _ => none

/-! ## Settings of a document -/

/-- As deep as the collections of a typed value may be nested. -/
def maxDepth : Nat := 128

/-- The settings of a document, read by words or else by values. A value may have a tag around each
of its collections. -/
def ofDocument? (d : Document) : Option Config :=
  ((byWords d).config? d.root).or
    (((d.value? maxDepth).bind (Value.merged? (2 * maxDepth + 1))).bind byValues.config?)

/-! ## Settings of a text -/

/-- The settings of a text: variables are replaced, the text is read, the settings are validated. -/
def ofText (environment : Interpolation.Environment) (s : String) : Except ConfigError Config :=
  match (Yaml.parse? (Interpolation.expand environment s)).bind ofDocument? with
  | none => .error .parse
  | some config => match config.validate with
    | .ok _ => .ok config
    | .error violation => .error (.validation violation)

/-- The path of the configuration file where none is named. -/
def defaultPath : String :=
  "config.yaml"

/-- The settings of a file. A file that is not there or does not hold text is not read. -/
def ofFile (environment : Interpolation.Environment) (path : String) (contents : Option ByteArray) :
    Except ConfigError Config :=
  match contents.bind String.fromUTF8? with
  | some text => ofText environment text
  | none => .error (.read path)

end Config

end OrderDesk
