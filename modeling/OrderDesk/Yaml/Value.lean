import OrderDesk.Text.Base64
import OrderDesk.Text.Uppercase
import OrderDesk.Yaml.Node
import OrderDesk.Yaml.Number

/-!
# YAML values

A node as a typed value: a plain scalar may be nothing, a truth value or a number, and a tag of
YAML itself asks for one of them. An alias is read as often as it is met, but not without limit. A
mapping may take over the entries of others with the key `<<`.

## Main definitions

* `OrderDesk.Yaml.Value`: the typed values, and `OrderDesk.Yaml.Value.same` their equality.
* `OrderDesk.Yaml.Document.value?`: the typed value of a document; no key comes twice in a mapping.
* `OrderDesk.Yaml.Value.merged?`: a value with the entries taken over.
-/

set_option autoImplicit false

namespace OrderDesk.Yaml

/-- A typed value. -/
inductive Value where
  | null
  | bool (b : Bool)
  | integer (n : Int)
  | real (r : Real)
  | text (s : String)
  | sequence (items : List Value)
  | mapping (entries : List (Value × Value))
  /-- A value with a tag of its own. -/
  | tagged (tag : String) (value : Value)

/-! ## Equality -/

namespace Value

mutual

/-- Two values are the same: numbers by what they stand for, and mappings in any order. -/
def same : Value → Value → Bool
  | .null, .null => true
  | .bool a, .bool b => a == b
  | .integer m, .integer n => m == n
  | .real r, .real s => r == s
  | .integer n, .real r => r.isInteger n
  | .real r, .integer n => r.isInteger n
  | .text s, .text t => s == t
  | .sequence items, .sequence others => sameItems items others
  | .mapping entries, .mapping others =>
    entries.length == others.length && sameEntries entries others
  | .tagged tag value, .tagged other value' => tag == other && same value value'
  | _, _ => false

/-- Two sequences have the same items. -/
def sameItems : List Value → List Value → Bool
  | [], [] => true
  | item :: items, other :: others => same item other && sameItems items others
  | _, _ => false

/-- Every entry of a mapping is one of another mapping. -/
def sameEntries : List (Value × Value) → List (Value × Value) → Bool
  | [], _ => true
  | (key, value) :: entries, others =>
    (others.any fun other => same key other.1 && same value other.2) && sameEntries entries others

end

/-- No key comes twice. -/
def distinctKeys : List (Value × Value) → Bool
  | [] => true
  | (key, _) :: entries => (entries.all fun other => !same key other.1) && distinctKeys entries

end Value

/-! ## Scalars -/

/-- The words for nothing. -/
def nullWords : List String :=
  ["~", "null", "Null", "NULL"]

/-- A truth value: one of two words in any ASCII case. -/
def truth? (word : String) : Option Bool :=
  let lower := Text.asciiLowercase word
  if lower = "true" then some true else if lower = "false" then some false else none

/-- A truth value where one is asked for: one of eight words in any ASCII case. -/
def truthOfWord? (word : String) : Option Bool :=
  let lower := Text.asciiLowercase word
  if lower ∈ ["true", "yes", "y", "on"] then some true
  else if lower ∈ ["false", "no", "n", "off"] then some false
  else none

/-- The whole numbers that a value may be: those of 64 bits, with a sign or without. -/
def isBounded (n : Int) : Bool :=
  -(2 ^ 63) ≤ n && n < 2 ^ 64

/-- The whole numbers of 128 bits. -/
def isRecognized (n : Int) : Bool :=
  -(2 ^ 127) ≤ n && n < 2 ^ 128

/-- A floating point number, if the digits are not a text because of a zero in front. -/
def ordinaryReal? (s : String) : Option Real :=
  let unsigned := match s.toList with
    | '-' :: cs => cs
    | '+' :: cs => cs
    | cs => cs
  if hasLeadingZero unsigned then none else real? s

/-- The value of a plain scalar without a tag. A whole number of more than 64 bits is refused; one
of more than 128 bits is no whole number. -/
def plainValue? (s : String) : Option Value :=
  if s.isEmpty ∨ s ∈ nullWords then some .null
  else match truth? s, (integer? s.toList).filter isRecognized, ordinaryReal? s with
    | some b, _, _ => some (.bool b)
    | none, some n, _ => if isBounded n then some (.integer n) else none
    | none, none, some r => some (.real r)
    | none, none, none => some (.text s)

/-- The value of a scalar without a tag. -/
def scalarValue? (plain : Bool) (s : String) : Option Value :=
  if plain then plainValue? s else some (.text s)

/-- A tag that is not a global one. -/
def isLocalTag (tag : String) : Bool :=
  tag.toList.head? == some '!'

/-- The value of a scalar with a tag. A tag of YAML itself must fit the text; octets are a sequence
of numbers. -/
def taggedScalar? (tag : String) (plain : Bool) (s : String) : Option Value :=
  if tag = coreTag ++ "null" then if s ∈ nullWords then some .null else none
  else if tag = coreTag ++ "bool" then (truthOfWord? s).map .bool
  else if tag = coreTag ++ "int" then ((integer? s.toList).filter isBounded).map .integer
  else if tag = coreTag ++ "float" then (real? s).map .real
  else if tag = coreTag ++ "binary" then
    (Text.octetsOfBase64? s.toList).map fun octets =>
      .sequence (octets.map fun (n : Nat) => .integer n)
  else if isLocalTag tag then (scalarValue? plain s).map (.tagged tag)
  else some (.text s)

/-! ## Nodes -/

mutual

/-- The number of the parts of a node: a collection has a start and an end, all else is one part. -/
def Node.size : Node → Nat
  | .scalar .. | .alias _ => 1
  | .sequence items => 2 + sizeOfItems items
  | .mapping entries => 2 + sizeOfEntries entries
  | .tagged _ node => node.size

/-- The number of the parts of the items of a sequence. -/
def sizeOfItems : List Node → Nat
  | [] => 0
  | item :: items => item.size + sizeOfItems items

/-- The number of the parts of the entries of a mapping. -/
def sizeOfEntries : List (Node × Node) → Nat
  | [] => 0
  | (key, value) :: entries => key.size + value.size + sizeOfEntries entries

end

/-- The text of a scalar. -/
def Node.text? (node : Node) : Option String :=
  match node.untagged with
  | .scalar _ text => some text
  | _ => none

/-- No key that is written as a scalar has the text of another one. -/
def distinctTexts (entries : List (Node × Node)) : Bool :=
  decide (entries.filterMap fun (key, _) => key.text?).Nodup

namespace Document

/-- The node that is meant, and how many aliases may still be read: an alias uses up one. -/
def follow? (d : Document) (aliases : Nat) (node : Node) : Option (Node × Nat) :=
  match node with
  | .alias _ => match aliases with
    | 0 => none
    | aliases + 1 => (d.target? node).map (·, aliases)
  | node => some (node, aliases)

mutual

/-- The value of a node that is no alias, and how many aliases may still be read. Collections are
nested at most `room` deep. A node is `exempt` if its tag does not count: inside a collection with a
tag of its own, the first part is. -/
def valueOf? (d : Document) (room aliases : Nat) (exempt : Bool) :
    Node → Option (Value × Nat)
  | .scalar plain text => (scalarValue? plain text).map (·, aliases)
  | .sequence items => match room with
    | 0 => none
    | room + 1 => (values? d room aliases exempt items).map fun (items, aliases) =>
      (.sequence items, aliases)
  | .mapping entries => match room with
    | 0 => none
    | room + 1 =>
      if !distinctTexts entries then none
      else match entryValues? d room aliases exempt entries with
        | some (entries, aliases) =>
          if Value.distinctKeys entries then some (.mapping entries, aliases) else none
        | none => none
  | .tagged tag node =>
    if exempt then valueOf? d room aliases true node
    else match node with
      | .scalar plain text => (taggedScalar? tag plain text).map (·, aliases)
      | node =>
        if isLocalTag tag then
          (valueOf? d room aliases true node).map fun (value, aliases) =>
            (.tagged tag value, aliases)
        else valueOf? d room aliases false node
  | .alias _ => none
termination_by node => (room, 0, sizeOf node)

/-- The values of the items of a sequence. -/
def values? (d : Document) (room aliases : Nat) (exempt : Bool) :
    List Node → Option (List Value × Nat)
  | [] => some ([], aliases)
  | item :: items => do
    let (node, aliases) ← d.follow? aliases item
    let (value, aliases) ← valueOf? d room aliases exempt node
    let (values, aliases) ← values? d room aliases false items
    return (value :: values, aliases)
termination_by items => (room, 1, items.length)

/-- The values of the entries of a mapping. -/
def entryValues? (d : Document) (room aliases : Nat) (exempt : Bool) :
    List (Node × Node) → Option (List (Value × Value) × Nat)
  | [] => some ([], aliases)
  | (key, value) :: entries => do
    let (key, aliases) ← d.follow? aliases key
    let (key, aliases) ← valueOf? d room aliases exempt key
    let (value, aliases) ← d.follow? aliases value
    let (value, aliases) ← valueOf? d room aliases false value
    let (entries, aliases) ← entryValues? d room aliases false entries
    return ((key, value) :: entries, aliases)
termination_by entries => (room, 1, entries.length)

end

/-- How often aliases may be read for each part of a document. -/
def aliasesPerPart : Nat := 100

/-- The value of a document whose collections are nested at most `room` deep. -/
def value? (d : Document) (room : Nat) : Option Value :=
  (d.valueOf? room (aliasesPerPart * d.root.size) false d.root).map Prod.fst

end Document

/-! ## Taking over entries -/

namespace Value

/-- The key is the one of the entries that are taken over. -/
def isMergeKey (key : Value) : Bool :=
  match key with
  | .text s => s == "<<"
  | _ => false

/-- The entries of a mapping, and behind them those of another one whose keys are new. -/
def takeOver (entries others : List (Value × Value)) : List (Value × Value) :=
  entries ++ others.filter fun other => entries.all fun entry => !same entry.1 other.1

/-- The entries of a mapping. -/
def entries? : Value → Option (List (Value × Value))
  | mapping entries => some entries
  | _ => none

/-- The entries that are taken over from a mapping, or from the mappings of a sequence; of these a
later one comes before an earlier one. -/
def sources? : Value → Option (List (List (Value × Value)))
  | mapping entries => some [entries]
  | sequence items => (items.mapM entries?).map List.reverse
  | _ => none

/-- The entries of a mapping with those that it takes over. Its own entries come first. A key `<<`
that is taken over itself is a key like any other. -/
def mergedEntries? (entries : List (Value × Value)) : Option (List (Value × Value)) :=
  match entries.find? (isMergeKey ·.1) with
  | none => some entries
  | some (_, source) =>
    source.sources?.map fun sources => sources.foldl takeOver (entries.filter (!isMergeKey ·.1))

/-- A value with the entries taken over, in collections nested at most `room` deep: a mapping takes
over its entries before the values in it do. -/
def merged? : (room : Nat) → Value → Option Value
  | room + 1, .sequence items => (items.mapM (merged? room)).map .sequence
  | room + 1, .mapping entries => do
    let entries ← mergedEntries? entries
    return .mapping (← entries.mapM fun (key, value) => (merged? room value).map (key, ·))
  | room + 1, .tagged tag value => (merged? room value).map (.tagged tag)
  | 0, .sequence _ | 0, .mapping _ | 0, .tagged .. => none
  | _, value => some value

/-- A value without a tag of its own. -/
def untagged : Value → Value
  | .tagged _ value => value
  | value => value

end Value

end OrderDesk.Yaml
