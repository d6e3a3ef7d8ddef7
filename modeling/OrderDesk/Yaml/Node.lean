import OrderDesk.Yaml.Token

/-!
# YAML nodes

The tree of scalars, sequences and mappings that a row of tokens stands for. A text holds at most
one document. An alias stands for the node with its anchor, which may even be a node around it, so
that nodes with anchors are kept beside the tree.

## Main definitions

* `OrderDesk.Yaml.Node`: the trees.
* `OrderDesk.Yaml.Document`: a tree and the nodes that its aliases stand for.
* `OrderDesk.Yaml.Written`: trees with anchors and aliases, as they are written.
* `OrderDesk.Yaml.document?`: the one document of a row of tokens.
* `OrderDesk.Yaml.Document.ofWritten?`: a document with its aliases counted.
-/

set_option autoImplicit false

namespace OrderDesk.Yaml

/-- A node. A plain scalar is one without quotes that is not a block either. An alias is the number
of an anchor. -/
inductive Node where
  | scalar (plain : Bool) (text : String)
  | sequence (items : List Node)
  | mapping (entries : List (Node × Node))
  | tagged (tag : String) (node : Node)
  | alias (anchor : Nat)

/-- A node as it is written. -/
inductive Written where
  | scalar (plain : Bool) (text : String)
  | sequence (items : List Written)
  | mapping (entries : List (Written × Written))
  | tagged (tag : String) (node : Written)
  | alias (name : String)
  | anchored (name : String) (node : Written)

/-- A scalar that is left out. -/
def Written.missing : Written :=
  scalar true ""

/-- A node without its tag. -/
def Node.untagged : Node → Node
  | tagged _ node => node
  | node => node

/-! ## From tokens to nodes -/

/-- What stands before a node. -/
structure Properties where
  anchor : Option String
  tag : Option String
  /-- There is an anchor or a tag. -/
  marked : Bool

/-- The handles of tags, each with the start of the tags that it stands for. -/
abbrev Handles : Type :=
  List (String × String)

/-- A whole tag. A handle must be known; a tag without one is whole already. -/
def Handles.tag? (handles : Handles) (handle suffix : String) : Option String :=
  if handle.isEmpty then some suffix
  else (handles.lookup handle).map (· ++ suffix)

/-- The anchor and the tag of a node, each at most once and in either order. -/
def properties? (handles : Handles) (tokens : List Token) : Option (Properties × List Token) :=
  match tokens with
  | .anchor name :: .tag handle suffix :: rest
  | .tag handle suffix :: .anchor name :: rest => (handles.tag? handle suffix).map fun tag =>
    ({ anchor := some name, tag := some tag, marked := true }, rest)
  | .anchor name :: rest => some ({ anchor := some name, tag := none, marked := true }, rest)
  | .tag handle suffix :: rest => (handles.tag? handle suffix).map fun tag =>
    ({ anchor := none, tag := some tag, marked := true }, rest)
  | _ => some ({ anchor := none, tag := none, marked := false }, tokens)

/-- A node with its anchor and its tag. -/
def Properties.apply (given : Properties) (node : Written) : Written :=
  let tagged := given.tag.elim node fun tag => .tagged tag node
  given.anchor.elim tagged fun name => .anchored name tagged

/-- The next token closes the row of a block, so that no node stands before it. -/
def endsBlockNode (tokens : List Token) : Bool :=
  match tokens with
  | .key :: _ | .value :: _ | .blockEnd :: _ => true
  | _ => false

/-- The next token is none with which an item of a block sequence starts. -/
def endsItem (tokens : List Token) : Bool :=
  match tokens with
  | .blockEntry :: _ | .blockEnd :: _ => true
  | _ => false

/-- The next token ends an item of a flow collection that is closed by `close`. -/
def endsFlowNode (close : Token) (tokens : List Token) : Bool :=
  match tokens with
  | .flowEntry :: _ => true
  | token :: _ => token == close
  | [] => false

mutual

/-- A node at the start of the tokens. In a block it may be a block collection, and as the value of
a mapping it may be a sequence of items that are not indented. -/
def node? (handles : Handles) : Nat → (block indentless : Bool) → List Token →
    Option (Written × List Token)
  | 0, _, _, _ => none
  | fuel + 1, block, indentless, tokens => match tokens with
    | .alias name :: rest => some (.alias name, rest)
    | _ => do
      let (given, tokens) ← properties? handles tokens
      let finish := fun (result : Written × List Token) =>
        (given.apply result.1, result.2)
      let otherwise := if given.marked then some (finish (.missing, tokens)) else none
      match tokens with
      | .scalar plain text :: rest => return finish (.scalar plain text, rest)
      | .openSequence :: rest => return finish (← flowItems? handles fuel true [] rest)
      | .openMapping :: rest => return finish (← flowEntries? handles fuel true [] rest)
      | .blockEntry :: _ =>
        if indentless then return finish (← looseItems? handles fuel [] tokens)
        otherwise
      | .blockSequence :: rest =>
        if block then return finish (← blockItems? handles fuel [] rest)
        otherwise
      | .blockMapping :: rest =>
        if block then return finish (← blockEntries? handles fuel [] rest)
        otherwise
      | _ => otherwise

/-- The items of an indented sequence. -/
def blockItems? (handles : Handles) : Nat → List Written → List Token →
    Option (Written × List Token)
  | fuel + 1, items, .blockEntry :: tokens => do
    let (item, tokens) ←
      if endsItem tokens then some (Written.missing, tokens)
      else node? handles fuel true false tokens
    blockItems? handles fuel (item :: items) tokens
  | _, items, .blockEnd :: rest => some (.sequence items.reverse, rest)
  | _, _, _ => none

/-- The items of a sequence that is not indented; the token behind the last one is left. -/
def looseItems? (handles : Handles) : Nat → List Written → List Token →
    Option (Written × List Token)
  | fuel + 1, items, .blockEntry :: tokens => do
    let (item, tokens) ←
      if endsItem tokens || endsBlockNode tokens then some (Written.missing, tokens)
      else node? handles fuel true false tokens
    looseItems? handles fuel (item :: items) tokens
  | 0, _, _ => none
  | _, items, tokens => some (.sequence items.reverse, tokens)

/-- The entries of a block mapping. -/
def blockEntries? (handles : Handles) : Nat → List (Written × Written) → List Token →
    Option (Written × List Token)
  | _, entries, .blockEnd :: rest => some (.mapping entries.reverse, rest)
  | fuel + 1, entries, .key :: tokens => do
    let (key, tokens) ←
      if endsBlockNode tokens then some (Written.missing, tokens)
      else node? handles fuel true true tokens
    let (value, tokens) ← blockValue? handles fuel tokens
    blockEntries? handles fuel ((key, value) :: entries) tokens
  | _, _, _ => none

/-- The value of a block mapping, which may be left out. -/
def blockValue? (handles : Handles) : Nat → List Token → Option (Written × List Token)
  | fuel + 1, .value :: tokens =>
    if endsBlockNode tokens then some (.missing, tokens) else node? handles fuel true true tokens
  | _, tokens => some (.missing, tokens)

/-- The items of a flow sequence. An item may be a mapping of a single entry; if it starts with a
question mark that has no key behind it, the next mark is taken for the key. -/
def flowItems? (handles : Handles) : Nat → (first : Bool) → List Written → List Token →
    Option (Written × List Token)
  | _, _, items, .closeSequence :: rest => some (.sequence items.reverse, rest)
  | 0, _, _, _ => none
  | fuel + 1, first, items, tokens => do
    let tokens ← if first then some tokens else match tokens with
      | .flowEntry :: rest => some rest
      | _ => none
    match tokens with
    | .closeSequence :: rest => return (.sequence items.reverse, rest)
    | .key :: tokens =>
      let (key, tokens) ← match tokens with
        | .value :: rest | .flowEntry :: rest | .closeSequence :: rest =>
          some (Written.missing, rest)
        | _ => node? handles fuel false false tokens
      let (value, tokens) ← flowValue? handles fuel .closeSequence tokens
      flowItems? handles fuel false (.mapping [(key, value)] :: items) tokens
    | _ =>
      let (item, tokens) ← node? handles fuel false false tokens
      flowItems? handles fuel false (item :: items) tokens

/-- The entries of a flow mapping. An entry without a key mark has no value. -/
def flowEntries? (handles : Handles) : Nat → (first : Bool) → List (Written × Written) →
    List Token → Option (Written × List Token)
  | _, _, entries, .closeMapping :: rest => some (.mapping entries.reverse, rest)
  | 0, _, _, _ => none
  | fuel + 1, first, entries, tokens => do
    let tokens ← if first then some tokens else match tokens with
      | .flowEntry :: rest => some rest
      | _ => none
    match tokens with
    | .closeMapping :: rest => return (.mapping entries.reverse, rest)
    | .key :: tokens =>
      let (key, tokens) ← match tokens with
        | .value :: _ | .flowEntry :: _ | .closeMapping :: _ => some (Written.missing, tokens)
        | _ => node? handles fuel false false tokens
      let (value, tokens) ← flowValue? handles fuel .closeMapping tokens
      flowEntries? handles fuel false ((key, value) :: entries) tokens
    | _ =>
      let (key, tokens) ← node? handles fuel false false tokens
      flowEntries? handles fuel false ((key, .missing) :: entries) tokens

/-- A value of a flow collection, which may be left out. -/
def flowValue? (handles : Handles) : Nat → (close : Token) → List Token →
    Option (Written × List Token)
  | fuel + 1, close, .value :: tokens =>
    if endsFlowNode close tokens then some (.missing, tokens)
    else node? handles fuel false false tokens
  | _, _, tokens => some (.missing, tokens)

end

/-! ## Documents -/

/-- The directives before a document: at most one version, which must be 1.1 or 1.2, and no handle
twice. -/
def directives? (version : Bool) (handles : Handles) :
    List Token → Option (Handles × List Token)
  | .version major minor :: rest =>
    if version ∨ major ≠ 1 ∨ (minor ≠ 1 ∧ minor ≠ 2) then none else directives? true handles rest
  | .tagHandle handle start :: rest =>
    if (handles.lookup handle).isSome then none
    else directives? version ((handle, start) :: handles) rest
  | tokens => some (handles, tokens)

/-- The start of the tags that YAML itself knows. -/
def coreTag : String := "tag:yaml.org,2002:"

/-- The handles that need no declaration. -/
def defaultHandles : Handles :=
  [("!", "!"), ("!!", coreTag)]

/-- The node of a document behind its start. -/
def content? (handles : Handles) (tokens : List Token) : Option (Written × List Token) :=
  match tokens with
  | [] | .version .. :: _ | .tagHandle .. :: _ | .documentStart :: _ | .documentEnd :: _ =>
    some (.missing, tokens)
  | _ => node? handles (4 * tokens.length + 4) true false tokens

/-- The document at the start of the tokens. It may go without a start mark. -/
def firstDocument? (tokens : List Token) : Option (Written × List Token) :=
  match tokens with
  | .version .. :: _ | .tagHandle .. :: _ | .documentStart :: _ => do
    match ← directives? false [] tokens with
    | (handles, .documentStart :: rest) => content? (handles ++ defaultHandles) rest
    | _ => none
  | _ => node? defaultHandles (4 * tokens.length + 4) true false tokens

/-- Nothing comes behind a document but end marks. -/
def isEnd (tokens : List Token) : Bool :=
  tokens.all (· == .documentEnd)

/-- The one document of a row of tokens, if there is any. -/
def document? (tokens : List Token) : Option (Option Written) :=
  if tokens.isEmpty then some none
  else match firstDocument? tokens with
    | some (node, rest) => if isEnd rest then some (some node) else none
    | none => none

/-- Behind end marks a document starts, with directives or without. -/
def opensDocument (tokens : List Token) : Bool :=
  (directives? false [] (tokens.dropWhile (· == .documentEnd))).any fun (_, rest) =>
    rest.head? == some .documentStart

/-! ## Aliases -/

/-- A tree with the nodes that have anchors, by their numbers. -/
structure Document where
  root : Node
  anchors : List (Nat × Node)

namespace Document

/-- The node that an alias stands for; any other node stands for itself. -/
def target? (d : Document) : Node → Option Node
  | .alias anchor => d.anchors.lookup anchor
  | node => some node

/-- The anchors of a part of a tree. -/
structure Anchors where
  /-- The numbers of the anchors by their names, the latest first. -/
  numbers : List (String × Nat)
  count : Nat
  /-- The nodes of the anchors. -/
  nodes : List (Nat × Node)

mutual

/-- A tree whose aliases are numbers, and the anchors behind it. An anchor counts from the start of
its node. -/
def number? (anchors : Anchors) : Written → Option (Node × Anchors)
  | .scalar plain text => some (.scalar plain text, anchors)
  | .sequence items => (numberItems? anchors items).map fun (items, anchors) =>
    (.sequence items, anchors)
  | .mapping entries => (numberEntries? anchors entries).map fun (entries, anchors) =>
    (.mapping entries, anchors)
  | .tagged tag node => (number? anchors node).map fun (node, anchors) =>
    (.tagged tag node, anchors)
  | .alias name => (anchors.numbers.lookup name).map fun anchor => (.alias anchor, anchors)
  | .anchored name node =>
    let anchor := anchors.count
    let begun := { anchors with
      numbers := (name, anchor) :: anchors.numbers
      count := anchor + 1 }
    (number? begun node).map fun (node, anchors) =>
      (node, { anchors with nodes := (anchor, node) :: anchors.nodes })

/-- The items of a sequence, with numbers for aliases. -/
def numberItems? (anchors : Anchors) : List Written → Option (List Node × Anchors)
  | [] => some ([], anchors)
  | item :: items => do
    let (item, anchors) ← number? anchors item
    let (items, anchors) ← numberItems? anchors items
    return (item :: items, anchors)

/-- The entries of a mapping, with numbers for aliases. -/
def numberEntries? (anchors : Anchors) :
    List (Written × Written) → Option (List (Node × Node) × Anchors)
  | [] => some ([], anchors)
  | (key, value) :: entries => do
    let (key, anchors) ← number? anchors key
    let (value, anchors) ← number? anchors value
    let (entries, anchors) ← numberEntries? anchors entries
    return ((key, value) :: entries, anchors)

end

/-- The document of a tree; every alias has an anchor. -/
def ofWritten? (node : Written) : Option Document :=
  (number? { numbers := [], count := 0, nodes := [] } node).map fun (root, anchors) =>
    { root, anchors := anchors.nodes }

end Document

end OrderDesk.Yaml
