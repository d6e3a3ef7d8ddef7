import OrderDesk.Text.Blank
import OrderDesk.Text.Segments
import OrderDesk.Yaml.Node
import OrderDesk.Yaml.Strict.Token

/-!
# YAML texts

A text is read by the rules of YAML 1.1, but only if it is well formed under the strict rules too.
It holds at most one document. Whatever follows the end mark of that document need not be well
formed, but no other document may start there.

## Main definitions

* `OrderDesk.Yaml.Strict.accepts`: a text is well formed under the strict rules.
* `OrderDesk.Yaml.parse?`: the document of a text.
-/

set_option autoImplicit false

namespace OrderDesk.Yaml

namespace Strict

/-- A row of documents in at most `fuel` steps. Behind a document without an end mark the next one
needs a start mark. -/
def isStream : Nat → (bare : Bool) → List Token → Bool
  | 0, _, _ => false
  | fuel + 1, bare, tokens => match tokens.dropWhile (· == .documentEnd) with
    | [] => true
    | first :: rest =>
      let marked := match first with
        | .version .. | .tagHandle .. | .documentStart => true
        | _ => false
      if !bare && !marked then false
      else match firstDocument? (first :: rest) with
        | some (_, .documentEnd :: rest) => isStream fuel true rest
        | some (_, .version .. :: _) | some (_, .tagHandle .. :: _) => false
        | some (_, rest) => isStream fuel false rest
        | none => false

/-- Every alias stands behind an anchor of its name. -/
def knowsAliases (anchors : List String) : List Token → Bool
  | [] => true
  | .anchor name :: tokens => knowsAliases (name :: anchors) tokens
  | .alias name :: tokens => anchors.contains name && knowsAliases anchors tokens
  | _ :: tokens => knowsAliases anchors tokens

/-- The number of aliases from which on it must not be more than ten times that of the anchors. -/
def manyAliases : Nat := 100

/-- There are not many more aliases than anchors. -/
def boundsAliases (tokens : List Token) : Bool :=
  let aliases := tokens.countP fun
    | .alias _ => true
    | _ => false
  let anchors := tokens.countP fun
    | .anchor _ => true
    | _ => false
  aliases < manyAliases || aliases ≤ 10 * anchors

/-- The lines of a text before the first one that has only an end mark. -/
def beforeEndMark (cs : List Char) : List Char :=
  let lines := Text.segments '\n' cs
  let kept := lines.takeWhile fun line => Text.trimEnd line != ['.', '.', '.']
  if kept.length = lines.length then cs else kept.flatMap (· ++ ['\n'])

/-- The text is well formed under the strict rules, up to an end mark. -/
def accepts (cs : List Char) : Bool :=
  (tokens? (beforeEndMark cs)).any fun tokens =>
    isStream (tokens.length + 1) true tokens && knowsAliases [] tokens && boundsAliases tokens

end Strict

/-- The document of a text; a text without a document is an empty plain scalar. -/
def parse? (s : String) : Option Document := do
  let cs := s.toList
  if !Strict.accepts cs then none
  let (tokens, behind) ← tokens? cs
  if opensDocument behind then none
  match ← document? tokens with
  | some node => Document.ofWritten? node
  | none => some { root := .scalar true "", anchors := [] }

end OrderDesk.Yaml
