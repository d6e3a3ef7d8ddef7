import OrderDesk.Yaml.Strict.Position
import OrderDesk.Yaml.Token

/-!
# Tokens under the strict rules

A YAML text as a row of tokens under the strict rules. Beside the columns of its open block
collections a text has levels that are only expected: behind a colon, what follows belongs to a
level one column further in, until a word or a collection shows where it stands.

## Main definitions

* `OrderDesk.Yaml.Strict.Scanner`: what has been read of a text.
* `OrderDesk.Yaml.Strict.Scanner.step?`: one more token.
* `OrderDesk.Yaml.Strict.tokens?`: all tokens of a text.
-/

set_option autoImplicit false

namespace OrderDesk.Yaml.Strict

/-- A level of indentation: a block collection that is open, or one that is only expected. -/
structure Level where
  column : Int
  isOpen : Bool

/-- What has been read of a text. -/
structure Scanner where
  position : Position
  tokens : List Token
  /-- The levels of indentation, the innermost first. -/
  levels : List Level
  /-- For the open flow collections, the innermost first, and for the block around them: where a key
  may have started. -/
  keyStarts : List (Option KeyStart)
  /-- A key may start here. -/
  keyAllowed : Bool
  /-- The place behind a quoted scalar or a collection, where a colon needs no blank. -/
  adjacent : Nat

/-- As deep as collections may be nested, block and flow collections each for themselves. -/
def maxDepth : Nat := 255

namespace Scanner

/-- Nothing has been read. -/
def start (cs : List Char) : Scanner :=
  { position := .start cs, tokens := [], levels := [], keyStarts := [none], keyAllowed := true,
    adjacent := 0 }

/-- The number of open flow collections. -/
def flowDepth (s : Scanner) : Nat :=
  s.keyStarts.length - 1

/-- The position is inside a flow collection. -/
def inFlow (s : Scanner) : Bool :=
  0 < s.flowDepth

/-- One more token. -/
def emit (s : Scanner) (token : Token) : Scanner :=
  { s with tokens := s.tokens ++ [token] }

/-- The same at another position. -/
def atPosition (s : Scanner) (p : Position) : Scanner :=
  { s with position := p }

/-- Whether a key may start here from now on. -/
def allowKey (s : Scanner) (allowed : Bool) : Scanner :=
  { s with keyAllowed := allowed }

/-! ## Levels -/

/-- The column of a row of levels; it is negative outside of all. -/
def columnOf (levels : List Level) : Int :=
  (levels.head?.map Level.column).getD (-1)

/-- The column of the innermost level. -/
def indent (s : Scanner) : Int :=
  columnOf s.levels

/-- The levels to the right of a column end. -/
def closeLevels (s : Scanner) (column : Int) : Scanner :=
  if s.inFlow then s
  else
    let ended := s.levels.takeWhile (column < ·.column)
    { s with
      tokens := s.tokens ++ List.replicate (ended.countP Level.isOpen) .blockEnd
      levels := s.levels.drop ended.length }

/-- A block collection starts at a column to the right of the innermost level. A level that is only
expected gives way to it. -/
def openLevel? (s : Scanner) (column position : Nat) (token : Token) : Option Scanner :=
  let levels := match s.levels with
    | level :: outer => if !level.isOpen ∧ level.column ≤ column then outer else s.levels
    | [] => []
  if s.inFlow then some s
  else if column ≤ columnOf levels then some { s with levels }
  else if maxDepth ≤ levels.length then none
  else some { s with
    tokens := s.tokens.insertIdx position token
    levels := { column, isOpen := true } :: levels }

/-- What follows is expected one column further in. -/
def expectLevel (s : Scanner) : Scanner :=
  if !s.inFlow && s.levels.head?.any Level.isOpen then
    { s with levels := { column := s.indent + 1, isOpen := false } :: s.levels }
  else s

/-- Levels that are only expected end at a word. -/
def dropExpected (s : Scanner) : Scanner :=
  { s with levels := s.levels.dropWhile (!·.isOpen) }

/-! ## Keys -/

/-- The innermost place where a key may have started. -/
def keyStart? (s : Scanner) : Option KeyStart :=
  s.keyStarts.head?.join

/-- The innermost place where a key may have started, set anew. -/
def setKeyStart (s : Scanner) (start : Option KeyStart) : Scanner :=
  { s with keyStarts := start :: s.keyStarts.tail }

/-- No key has started here; it is wrong if one was required. -/
def dropKey? (s : Scanner) : Option Scanner :=
  if s.keyStart?.any (·.required) then none else some (s.setKeyStart none)

/-- A key may start here, if keys are allowed. -/
def saveKey (s : Scanner) : Scanner :=
  if !s.keyAllowed then s
  else s.setKeyStart (some {
    required := !s.inFlow && s.indent == s.position.column && s.levels.head?.any Level.isOpen
    position := s.tokens.length
    line := s.position.line
    column := s.position.column
    index := s.position.index })

/-- In a block a key that is on another line or more than 1024 characters away is given up; it is
wrong if it was required. -/
def dropStaleKey? (s : Scanner) : Option Scanner :=
  let p := s.position
  let stale := fun (start : KeyStart) => start.line < p.line || start.index + 1024 < p.index
  if !s.inFlow ∧ s.keyStart?.any stale then s.dropKey? else some s

/-! ## Between tokens -/

/-- The position of the next token. A tab to the left of the innermost level stands only on lines
without a token, and a byte order mark only before a document. -/
def skipSpace? : Nat → Scanner → Option Scanner
  | 0, s => some s
  | fuel + 1, s =>
    let p := s.position
    match p.head with
    | none => some s
    | some c =>
      if c = '\t' ∧ !s.levels.isEmpty ∧ p.leading ∧ p.column < s.indent then
        match p.endOfLine? with
        | some p => skipSpace? fuel (s.atPosition p)
        | none => none
      else if isBlank c ∨ (c = byteOrderMark ∧ s.tokens.all (· == .documentEnd)) then
        skipSpace? fuel (s.atPosition (p.pass 1))
      else if isBreak c then
        skipSpace? fuel ((s.atPosition p.nextLine).allowKey (s.keyAllowed || !s.inFlow))
      else if c = '#' then skipSpace? fuel (s.atPosition (p.passWhile fun c => !isBreak c))
      else some s

/-- The position of the next token. -/
def nextPlace? (s : Scanner) : Option Scanner :=
  skipSpace? (s.position.rest.length + 1) s

/-! ## Marks -/

/-- The end of all blocks, as it comes before a directive or a document marker. -/
def endBlocks? (s : Scanner) : Option Scanner :=
  (s.closeLevels (-1)).dropKey?.map (allowKey · false)

/-- The position behind the version of a directive. -/
def passVersion (p : Position) : Position :=
  (p.passWhile isBlank).passWhile fun c => c.isDigit || c == '.'

/-- The position behind the handle of a directive and the start of its tags, which is no mark of
flow collections. -/
def passHandle? (p : Position) : Option (String × Position) :=
  let word := fun (p : Position) => p.rest.takeWhile (!isSpace ·)
  let p := p.passWhile isBlank
  let handle := word p
  let p := (p.pass handle.length).passWhile isBlank
  if p.head.all isFlowMark then none
  else some (String.ofList handle, p.pass (word p).length)

/-- A directive: a version, a handle, or something else that is not looked at. A carriage return
alone does not end its line. -/
def directive? (s : Scanner) : Option Scanner := do
  let s ← s.endBlocks?
  let p := s.position.step 1
  let name := p.rest.takeWhile isNameChar
  let p := p.pass name.length
  if name.isEmpty ∨ !endsWord p.head then none
  let (token, p) ←
    if name = "YAML".toList then pure (Token.version 1 1, passVersion p)
    else if name = "TAG".toList then
      (passHandle? p).map fun (handle, p) => (.tagHandle handle "", p)
    else pure (.tagHandle "" "", p.passWhile fun c => !isBreak c)
  let p ← p.endOfLine?
  if p.head = some '\r' ∧ p.ahead 1 ≠ some '\n' then none
  return (s.atPosition p.nextLine).emit token

/-- The start mark of a document. -/
def documentStart? (s : Scanner) : Option Scanner :=
  s.endBlocks?.map fun s => (s.atPosition (s.position.step 3)).emit .documentStart

/-- The end mark of a document; nothing else stands on its line. -/
def documentEnd? (s : Scanner) : Option Scanner := do
  let s ← s.endBlocks?
  return (s.atPosition (← (s.position.step 3).endOfLine?)).emit .documentEnd

/-- The start of a flow collection. -/
def openFlow? (s : Scanner) (token : Token) : Option Scanner := do
  let s := s.saveKey.expectLevel
  if maxDepth ≤ s.flowDepth then none
  let p ← (s.position.step 1).restOfLine?
  return ({ s with keyStarts := none :: s.keyStarts, position := p }.allowKey true).emit token

/-- The end of a flow collection. -/
def closeFlow? (s : Scanner) (token : Token) : Option Scanner := do
  let s ← s.dropKey?
  let p ← (s.position.step 1).restOfLine?
  let keyStarts := if s.inFlow then s.keyStarts.tail else s.keyStarts
  let s := ({ s with keyStarts, position := p }.allowKey false).emit token
  return { s with adjacent := if s.inFlow then p.index else s.adjacent }

/-- A comma between items. -/
def flowEntry? (s : Scanner) : Option Scanner := do
  let s ← s.dropKey?
  return ((s.atPosition (← (s.position.step 1).restOfLine?)).allowKey true).emit .flowEntry

/-- A hyphen before an item. Behind a tab no other hyphen follows on the line. -/
def blockEntry? (s : Scanner) : Option Scanner := do
  if s.inFlow ∨ !s.keyAllowed then none
  let p := s.position.step 1
  let s ← s.openLevel? s.position.column s.tokens.length .blockSequence
  let q ← p.restOfLine?
  if (p.rest.takeWhile isBlank).contains '\t' ∧ q.head = some '-' ∧ endsWord (q.ahead 1) then none
  let s := if q.head.any fun c => isBreak c || isFlowMark c then s.expectLevel else s
  return ((← s.dropKey?).atPosition q |>.allowKey true).emit .blockEntry

/-- The position behind spaces, line breaks and comments behind a question mark. -/
def skipKeyGap : Nat → Scanner → Scanner
  | 0, s => s
  | fuel + 1, s =>
    let p := s.position
    match p.head with
    | none => s
    | some c =>
      if c = ' ' then skipKeyGap fuel (s.atPosition (p.pass 1))
      else if isBreak c then
        skipKeyGap fuel ((s.atPosition p.nextLine).allowKey (s.keyAllowed || !s.inFlow))
      else if c = '#' then skipKeyGap fuel (s.atPosition (p.passWhile fun c => !isBreak c))
      else s

/-- A question mark before a key, with a space or a line break behind it. No tab follows before a
token. -/
def explicitKey? (s : Scanner) : Option Scanner := do
  if !s.inFlow ∧ !s.keyAllowed then none
  let s ← s.openLevel? s.position.column s.tokens.length .blockMapping
  let s := (← s.dropKey?).allowKey (!s.inFlow)
  let p := s.position.step 1
  let s := (s.atPosition p).skipKeyGap (p.rest.length + 1)
  if s.position.index = p.index ∨ s.position.head = some '\t' then none
  return s.emit .key

/-- A colon before a value. If a key may have started, it has. -/
def value? (s : Scanner) : Option Scanner := do
  let p := s.position.step 1
  let s ← match s.keyStart? with
    | some start => do
      let s := { s with tokens := s.tokens.insertIdx start.position .key }
      let s ← s.openLevel? start.column start.position .blockMapping
      pure ((s.expectLevel.setKeyStart none).allowKey false)
    | none => do
      if !s.inFlow ∧ !s.keyAllowed then none
      let s ← s.openLevel? s.position.column s.tokens.length .blockMapping
      pure (s.expectLevel.allowKey (!s.inFlow))
  return (s.atPosition p).emit .value

/-- A colon in a flow collection that is not followed by a blank. A collection comes directly
behind it only where it is adjacent to its key. -/
def adjacentValue? (s : Scanner) : Option Scanner :=
  let opening := (s.position.ahead 1).any fun c => c == '[' || c == '\x7b'
  if s.position.index ≠ s.adjacent ∧ opening then none else s.value?

/-! ## Names and tags -/

/-- A character of an anchor's name. -/
def isAnchorChar (c : Char) : Bool :=
  !isSpace c && !isFlowMark c && c != byteOrderMark

/-- An anchor or an alias: a name behind its mark. -/
def name? (s : Scanner) (token : String → Token) : Option Scanner :=
  let s := s.saveKey.allowKey false
  let name := (s.position.rest.drop 1).takeWhile isAnchorChar
  if name.isEmpty then none
  else some ((s.atPosition (s.position.step (1 + name.length))).emit (token (String.ofList name)))

/-- A character of a tag behind its handle. -/
def isSuffixChar (c : Char) : Bool :=
  c.isAlphanum || "-#;/?:@&=+$_.~*'()%".toList.contains c

/-- The length of a tag behind its exclamation mark. -/
def tagLength? (cs : List Char) : Option Nat :=
  match cs with
  | '<' :: cs =>
    let uri := cs.takeWhile fun c => isSuffixChar c || "!,[]".toList.contains c
    if cs[uri.length]? = some '>' then some (uri.length + 2) else none
  | _ =>
    let name := cs.takeWhile isNameChar
    if cs[name.length]? = some '!' then
      let suffix := (cs.drop (name.length + 1)).takeWhile isSuffixChar
      if suffix.isEmpty then none else some (name.length + 1 + suffix.length)
    else some (cs.takeWhile isSuffixChar).length

/-- A tag. -/
def tag? (s : Scanner) : Option Scanner := do
  let s := s.saveKey.allowKey false
  let p := s.position.step (1 + (← tagLength? (s.position.rest.drop 1)))
  if endsWord p.head ∨ (s.inFlow ∧ p.head.any isFlowMark) then
    return (s.atPosition p).emit (.tag "" "")
  none

/-! ## Scalars -/

/-- A scalar, whose text does not matter. -/
def scalar : Token :=
  .scalar true ""

/-- A quoted scalar, with what stands between it and the next token. -/
def quoted? (s : Scanner) (double : Bool) : Option Scanner := do
  let s := s.saveKey.allowKey false
  let p ← s.position.quoted? double s.inFlow s.indent
  let s ← (s.atPosition p).nextPlace?
  return { s with adjacent := s.position.index }.emit scalar

/-- A block scalar. -/
def block? (s : Scanner) : Option Scanner := do
  let s := (s.saveKey.allowKey true).dropExpected
  return (s.atPosition (← s.position.block? s.indent)).emit scalar

/-- A plain scalar. If a line break follows it, a key may start behind it. -/
def plain? (s : Scanner) : Option Scanner := do
  let s := s.saveKey.dropExpected
  let p ← s.position.plain? s.inFlow (s.indent + 1)
  return ((s.atPosition p).allowKey p.leading).emit scalar

/-! ## Steps -/

/-- The token that starts with the given character. -/
def token? (s : Scanner) (c : Char) : Option Scanner :=
  let next := s.position.ahead 1
  let adjacent := s.inFlow && (next.any isFlowMark || s.position.index == s.adjacent)
  match c with
  | '[' => s.openFlow? .openSequence
  | '\x7b' => s.openFlow? .openMapping
  | ']' => s.closeFlow? .closeSequence
  | '\x7d' => s.closeFlow? .closeMapping
  | ',' => s.flowEntry?
  | '*' => s.name? .alias
  | '&' => s.name? .anchor
  | '!' => s.tag?
  | '\'' => s.quoted? false
  | '"' => s.quoted? true
  | _ =>
    if c = '-' ∧ endsWord next then s.blockEntry?
    else if c = '?' ∧ endsWord next then s.explicitKey?
    else if c = ':' ∧ endsWord next then s.value?
    else if c = ':' ∧ adjacent then s.adjacentValue?
    else if (c = '|' ∨ c = '>') ∧ !s.inFlow then s.block?
    else if c = '%' ∨ c = '@' ∨ c = '\x60' ∨ c = byteOrderMark then none
    else s.plain?

/-- One more token. The flag says whether there is more. -/
def step? (s : Scanner) : Option (Bool × Scanner) := do
  let s ← (← s.nextPlace?).dropStaleKey?
  let s := s.closeLevels s.position.column
  match s.position.head with
  | none =>
    if s.keyStarts.any fun start => start.any (·.required) then none
    return (false, s.closeLevels (-1))
  | some c =>
    if s.position.column = 0 ∧ c = '%' then return (true, ← s.directive?)
    if s.position.atMarker then
      if c = '-' then return (true, ← s.documentStart?)
      return (true, ← s.documentEnd?)
    return (true, ← s.token? c)

/-- All tokens, in at most `fuel` steps. -/
def scan? : Nat → Scanner → Option (List Token)
  | 0, _ => none
  | fuel + 1, s => match s.step? with
    | some (true, s) => scan? fuel s
    | some (false, s) => some s.tokens
    | none => none

end Scanner

/-- The tokens of a text. Every step but the last one moves on by a character. -/
def tokens? (cs : List Char) : Option (List Token) :=
  Scanner.scan? (cs.length + 2) (.start cs)

end OrderDesk.Yaml.Strict
