/-!
# Variables in a configuration text

A configuration text may refer to variables of the environment: `${NAME}` stands for the value of
`NAME`, and `${NAME:-default}` for the default if `NAME` has no value. A variable without characters
has no value.

The references of a text are found once, from left to right. Then, one after another, each of them
is replaced wherever its written form occurs at that time, so that a value which looks like a later
reference is replaced with it.

## Main definitions

* `OrderDesk.Interpolation.Reference`: a reference with its default.
* `OrderDesk.Interpolation.pieces`: a text cut into references and what stands between them.
* `OrderDesk.Interpolation.expand`: a text with its references replaced.
-/

set_option autoImplicit false

namespace OrderDesk.Interpolation

/-- The variables of the environment. -/
abbrev Environment : Type :=
  List (String × String)

/-- A reference to a variable. -/
structure Reference where
  name : List Char
  default : Option (List Char)
deriving DecidableEq

/-- A part of a text. -/
inductive Piece where
  | char (c : Char)
  | reference (r : Reference)
deriving DecidableEq

namespace Reference

/-- A reference as it is written. -/
def written (r : Reference) : List Char :=
  '$' :: '\x7b' :: (r.name ++ (match r.default with
    | some text => ':' :: '-' :: text
    | none => []) ++ ['\x7d'])

/-- The value of a reference: the variable's, else the default, else nothing. -/
def value (environment : Environment) (r : Reference) : List Char :=
  let default := r.default.getD []
  match environment.lookup (String.ofList r.name) with
  | some value => if value.isEmpty then default else value.toList
  | none => default

end Reference

/-! ## Finding references -/

/-- A letter or an underscore. -/
def isNameStart (c : Char) : Bool :=
  c.isAlpha || c == '_'

/-- A letter, a digit or an underscore. -/
def isNameChar (c : Char) : Bool :=
  c.isAlphanum || c == '_'

/-- The reference behind a dollar sign and an opening brace. -/
def readReference? (cs : List Char) : Option Reference :=
  let name := cs.takeWhile isNameChar
  if !(name.head?.any isNameStart) then none
  else match cs.drop name.length with
    | '\x7d' :: _ => some { name, default := none }
    | ':' :: '-' :: rest =>
      let default := rest.takeWhile (· != '\x7d')
      if default.length < rest.length then some { name, default := some default } else none
    | _ => none

/-- The reference at the start of a text. -/
def reference? : List Char → Option Reference
  | '$' :: '\x7b' :: rest => readReference? rest
  | _ => none

/-- The pieces of a text; `skip` more characters belong to the reference before. -/
def piecesFrom (skip : Nat) : List Char → List Piece
  | [] => []
  | c :: cs => match skip with
    | skip + 1 => piecesFrom skip cs
    | 0 => match reference? (c :: cs) with
      | some r => .reference r :: piecesFrom (r.written.length - 1) cs
      | none => .char c :: piecesFrom 0 cs

/-- The pieces of a text, from left to right. -/
def pieces (cs : List Char) : List Piece :=
  piecesFrom 0 cs

/-- The references of a text, from left to right. -/
def references (cs : List Char) : List Reference :=
  (pieces cs).filterMap fun
    | .reference r => some r
    | .char _ => none

/-! ## Replacing -/

/-- A text with every occurrence of a nonempty `pattern` replaced, from left to right; `skip` more
characters belong to the occurrence before. -/
def replaceFrom (pattern value : List Char) (skip : Nat) : List Char → List Char
  | [] => []
  | c :: cs => match skip with
    | skip + 1 => replaceFrom pattern value skip cs
    | 0 =>
      if pattern.isPrefixOf (c :: cs) then
        value ++ replaceFrom pattern value (pattern.length - 1) cs
      else c :: replaceFrom pattern value 0 cs

/-- A text with every occurrence of a reference replaced by its value. -/
def replace (environment : Environment) (cs : List Char) (r : Reference) : List Char :=
  replaceFrom r.written (r.value environment) 0 cs

/-- A text with its references replaced, one after another. -/
def expand (environment : Environment) (s : String) : String :=
  String.ofList ((references s.toList).foldl (replace environment) s.toList)

example : expand [("A", "1")] "$\x7bA\x7d-$\x7bB:-2\x7d-$\x7bC\x7d" = "1-2-" := by decide +kernel

example : expand [("A", "$\x7bB\x7d"), ("B", "2")] "$\x7bA\x7d $\x7bB\x7d" = "2 2" := by
  decide +kernel

end OrderDesk.Interpolation
