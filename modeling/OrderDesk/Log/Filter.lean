import OrderDesk.Config.Basic
import OrderDesk.Text.Alphanumeric
import OrderDesk.Text.Numeral
import OrderDesk.Text.Segments

/-!
# Log filters

A filter says which events reach the log. It is a row of directives: a level for all events, or a
target with a level for the events whose target starts with it. Of the directives that speak of an
event the most specific one decides.

## Main definitions

* `OrderDesk.LogFilter`: the directives, the most specific first.
* `OrderDesk.LogFilter.parse?`, `OrderDesk.LogFilter.text`: reading and writing.
* `OrderDesk.LogFilter.enables`: whether an event passes.
* `OrderDesk.LogFilter.choose`: the filter of the environment, or of the configuration.
-/

set_option autoImplicit false

namespace OrderDesk

/-- A directive. Without a level it lets nothing pass. -/
structure LogDirective where
  target : Option String
  level : Option LogLevel
deriving DecidableEq

/-- The directives, the most specific first. -/
structure LogFilter where
  directives : List LogDirective
deriving DecidableEq

namespace LogDirective

/-- The name of a level, or of none. -/
def levelName (level : Option LogLevel) : String :=
  level.elim "off" LogLevel.name

/-- The level of a word: its name in any ASCII case, or its rank among the levels. -/
def level? (word : List Char) : Option (Option LogLevel) :=
  match Text.readNatBelow? (2 ^ 64) word with
  | some 0 => some none
  | some n => (LogLevel.all.find? fun l => l.rank + n == 6).map some
  | none =>
    let lower := Text.asciiLowercase (String.ofList word)
    if lower = "off" then some none else (LogLevel.all.find? (·.name == lower)).map some

/-- A directive as it is written. -/
def text (d : LogDirective) : String :=
  match d.target with
  | some target => target ++ "=" ++ levelName d.level
  | none => levelName d.level

/-- A directive starts with a letter, a number or one of three marks, behind blanks if need be, and
has no brackets: they would stand for a part of a target. -/
def isWellFormed (word : List Char) : Bool :=
  let first := (Text.trimStart word).head?
  first.any (fun c => Text.isAlphanumeric c || c == '-' || c == ':' || c == '_') &&
    !word.contains '['

/-- The directive of a word: a level, a target, or a target and a level. A target alone or with an
empty level lets all of its events pass. Blanks are a part of a target, so that no level has any,
and none may stand before a target that has a level. -/
def parse? (word : List Char) : Option LogDirective :=
  let before := word.takeWhile (· != '=')
  if !isWellFormed word then none
  else match word.drop before.length with
    | [] => match level? word with
      | some level => some { target := none, level }
      | none => some { target := some (String.ofList word), level := some .trace }
    | _ :: level =>
      if word.head?.any Text.isBlank then none
      else
        let level? := if level.isEmpty then some (some .trace) else level? level
        level?.map fun level => { target := some (String.ofList before), level }

/-- The directive speaks of an event with this target. -/
def covers (d : LogDirective) (target : String) : Bool :=
  match d.target with
  | some start => start.toList.isPrefixOf target.toList
  | none => true

/-- The first directive is at least as specific as the second: longer targets come first, of two
equally long ones the later in the order of texts. -/
def comesBefore (a b : LogDirective) : Bool :=
  match a.target, b.target with
  | _, none => true
  | none, some _ => false
  | some s, some t =>
    t.utf8ByteSize < s.utf8ByteSize || (t.utf8ByteSize == s.utf8ByteSize && t ≤ s)

end LogDirective

namespace LogFilter

/-- The directives with one more, which replaces the one for the same target. -/
def add (f : LogFilter) (d : LogDirective) : LogFilter :=
  let others := f.directives.filter (·.target != d.target)
  ⟨others.takeWhile (·.comesBefore d) ++ d :: others.dropWhile (·.comesBefore d)⟩

/-- The filter of a text: directives between commas. Without any directive nothing passes. -/
def parse? (s : String) : Option LogFilter := do
  let words := (Text.segments ',' s.toList).filter (!·.isEmpty)
  return (← words.mapM LogDirective.parse?).foldl add ⟨[]⟩

/-- A filter as it is written. -/
def text (f : LogFilter) : String :=
  String.intercalate "," (f.directives.map LogDirective.text)

/-- An event passes if the most specific directive that speaks of it admits its level. -/
def enables (f : LogFilter) (target : String) (level : LogLevel) : Bool :=
  match f.directives.find? (·.covers target) with
  | some d => d.level.any (·.admits level)
  | none => false

/-- The filter of the environment if it is there and can be read, else the configured one. -/
def choose (environment : Option String) (config : LoggingConfig) : Option LogFilter :=
  (environment.bind parse?).or (parse? config.level)

example : (parse? "WARN").map text = some "warn" := by decide +kernel

example : (parse? "a=b=info").isNone := by decide +kernel

end LogFilter

end OrderDesk
