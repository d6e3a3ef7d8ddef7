import OrderDesk.Yaml.Scalar

/-!
# YAML tokens

A YAML text as a row of tokens. Indentation becomes tokens of its own: a mapping or a sequence that
is marked by its column starts and ends with a token, as one in brackets does. A key before a colon
is seen only at the colon; its token is then put in front of what has been read since.

## Main definitions

* `OrderDesk.Yaml.Token`: the tokens.
* `OrderDesk.Yaml.Scanner`: what has been read of a text, and what may still become a key.
* `OrderDesk.Yaml.Scanner.step?`: one more token.
* `OrderDesk.Yaml.tokens?`: the tokens of a text.
-/

set_option autoImplicit false

namespace OrderDesk.Yaml

/-- A token. -/
inductive Token where
  | version (major minor : Nat)
  | tagHandle (handle start : String)
  | documentStart
  | documentEnd
  | blockSequence
  | blockMapping
  | blockEnd
  | openSequence
  | closeSequence
  | openMapping
  | closeMapping
  | blockEntry
  | flowEntry
  | key
  | value
  | alias (name : String)
  | anchor (name : String)
  | tag (handle suffix : String)
  | scalar (plain : Bool) (text : String)
deriving DecidableEq

/-- A place where a key may have started, if a colon follows on the same line. -/
structure KeyStart where
  /-- Nothing but a key may stand here. -/
  required : Bool
  /-- The number of tokens before it. -/
  position : Nat
  line : Nat
  column : Nat
  index : Nat

/-- What has been read of a text. -/
structure Scanner where
  cursor : Cursor
  tokens : List Token
  /-- The columns of the open block collections, the innermost first. -/
  indents : List Nat
  /-- For the open flow collections, the innermost first, and for the block around them: where a key
  may have started. -/
  keyStarts : List (Option KeyStart)
  /-- A key may start here. -/
  keyAllowed : Bool

namespace Scanner

/-- Nothing has been read. -/
def start (cs : List Char) : Scanner :=
  { cursor := .start cs, tokens := [], indents := [], keyStarts := [none], keyAllowed := true }

/-- The position is inside a flow collection. -/
def inFlow (s : Scanner) : Bool :=
  1 < s.keyStarts.length

/-- One more token. -/
def emit (s : Scanner) (token : Token) : Scanner :=
  { s with tokens := s.tokens ++ [token] }

/-- The position moved by `n` characters. -/
def skip (s : Scanner) (n : Nat) : Scanner :=
  { s with cursor := s.cursor.skip n }

/-- Whether a key may start here from now on. -/
def allowKey (s : Scanner) (allowed : Bool) : Scanner :=
  { s with keyAllowed := allowed }

/-! ## Indentation -/

/-- The innermost column that a block collection has. -/
def indent? (s : Scanner) : Option Nat :=
  s.indents.head?

/-- The block collections to the right of a column end; without a column all end. -/
def closeBlocks (s : Scanner) (column : Option Nat) : Scanner :=
  if s.inFlow then s
  else
    let ended := s.indents.takeWhile fun n => column.all (· < n)
    { s with
      tokens := s.tokens ++ List.replicate ended.length .blockEnd
      indents := s.indents.drop ended.length }

/-- A block collection starts at a column that lies to the right of the innermost one. Its token is
put in front of the tokens from `position` on. -/
def openBlock (s : Scanner) (column position : Nat) (token : Token) : Scanner :=
  if s.inFlow ∨ s.indent?.any (column ≤ ·) then s
  else { s with
    tokens := s.tokens.insertIdx position token
    indents := column :: s.indents }

/-! ## Keys -/

/-- The innermost place where a key may have started. -/
def keyStart? (s : Scanner) : Option KeyStart :=
  s.keyStarts.head?.join

/-- The innermost place where a key may have started, set anew. -/
def setKeyStart (s : Scanner) (start : Option KeyStart) : Scanner :=
  { s with keyStarts := start :: s.keyStarts.tail }

/-- No key has started here; it is wrong if one was required. -/
def dropKey? (s : Scanner) : Option Scanner :=
  if s.keyStart?.any (·.required) then none else some (s.setKeyStart none)

/-- A key may start here, if keys are allowed. -/
def saveKey? (s : Scanner) : Option Scanner :=
  if !s.keyAllowed then some s
  else (dropKey? s).map fun s => s.setKeyStart (some {
    required := !s.inFlow && s.indent? == some s.cursor.column
    position := s.tokens.length
    line := s.cursor.line
    column := s.cursor.column
    index := s.cursor.index })

/-- A place is too far back for a key: on another line, or more than 1024 bytes away. -/
def isStale (p : Cursor) (start : KeyStart) : Bool :=
  start.line < p.line || start.index + 1024 < p.index

/-- Keys that can no longer be completed are given up; it is wrong if one was required. -/
def dropStaleKeys? (s : Scanner) : Option Scanner :=
  let stale := fun (start : Option KeyStart) => start.any (isStale s.cursor)
  if s.keyStarts.any fun start => stale start && start.any (·.required) then none
  else some { s with
    keyStarts := s.keyStarts.map fun start => if stale start then none else start }

/-! ## Between tokens -/

/-- The position of the next token: blanks, comments and line breaks are passed over, and a byte
order mark at the start of a line. Tabs do not count as blanks where a key may start in a block. -/
def skipSpace (fuel : Nat) (s : Scanner) : Scanner :=
  match fuel with
  | 0 => s
  | fuel + 1 =>
    let tabs := s.inFlow || !s.keyAllowed
    let p := s.cursor.skipByteOrderMark
    let p := (p.takeWhile fun c => c == ' ' || (tabs && c == '\t')).2
    let p := if p.head = some '#' then (p.takeWhile fun c => !isBreak c).2 else p
    if p.head.any isBreak then
      skipSpace fuel { s with cursor := p.skipBreak, keyAllowed := s.keyAllowed || !s.inFlow }
    else { s with cursor := p }

/-! ## Marks -/

/-- The end of all blocks, as it comes before a directive or a document marker. -/
def endBlocks? (s : Scanner) : Option Scanner :=
  (s.closeBlocks none).dropKey?.map (allowKey · false)

/-- A document marker. -/
def documentMarker? (s : Scanner) (token : Token) : Option Scanner :=
  s.endBlocks?.map fun s => (s.skip 3).emit token

/-- The start of a flow collection. -/
def openFlow? (s : Scanner) (token : Token) : Option Scanner :=
  s.saveKey?.map fun s =>
    (({ s with keyStarts := none :: s.keyStarts }.allowKey true).skip 1).emit token

/-- The end of a flow collection. -/
def closeFlow? (s : Scanner) (token : Token) : Option Scanner :=
  s.dropKey?.map fun s =>
    let keyStarts := if s.inFlow then s.keyStarts.tail else s.keyStarts
    (({ s with keyStarts }.allowKey false).skip 1).emit token

/-- A comma between items. -/
def flowEntry? (s : Scanner) : Option Scanner :=
  s.dropKey?.map fun s => ((s.allowKey true).skip 1).emit .flowEntry

/-- A hyphen before an item. -/
def blockEntry? (s : Scanner) : Option Scanner :=
  if !s.inFlow ∧ !s.keyAllowed then none
  else
    let s := s.openBlock s.cursor.column s.tokens.length .blockSequence
    s.dropKey?.map fun s => ((s.allowKey true).skip 1).emit .blockEntry

/-- A question mark before a key. -/
def explicitKey? (s : Scanner) : Option Scanner :=
  if !s.inFlow ∧ !s.keyAllowed then none
  else
    let s := s.openBlock s.cursor.column s.tokens.length .blockMapping
    s.dropKey?.map fun s => ((s.allowKey (!s.inFlow)).skip 1).emit .key

/-- A colon before a value. If a key may have started, it has. -/
def value? (s : Scanner) : Option Scanner :=
  match s.keyStart? with
  | some start =>
    let s := { s with tokens := s.tokens.insertIdx start.position .key }
    let s := (s.openBlock start.column start.position .blockMapping).setKeyStart none
    some (((s.allowKey false).skip 1).emit .value)
  | none =>
    if !s.inFlow ∧ !s.keyAllowed then none
    else
      let s := s.openBlock s.cursor.column s.tokens.length .blockMapping
      some (((s.allowKey (!s.inFlow)).skip 1).emit .value)

/-! ## Names and tags -/

/-- An anchor or an alias: a name behind its mark. -/
def name? (s : Scanner) (token : String → Token) : Option Scanner := do
  let s ← s.saveKey?
  let (name, p) := (s.cursor.skip 1).takeWhile isNameChar
  let closes := fun (c : Char) => ['?', ':', ',', ']', '\x7d', '%', '@', '\x60'].contains c
  if name.isEmpty ∨ !(endsWord p.head || p.head.any closes) then none
  return { (s.allowKey false) with cursor := p }.emit (token (String.ofList name))

/-- A character of a tag. -/
def isTagChar (brackets : Bool) (c : Char) : Bool :=
  isNameChar c || ";/?:@&=+$.%!~*'()".toList.contains c || (brackets && [',', '[', ']'].contains c)

/-- A handle: an exclamation mark, or a name between two of them. A single mark may be the start
of a tag. -/
def readHandle (p : Cursor) : List Char × Cursor :=
  let (name, q) := (p.skip 1).takeWhile isNameChar
  if q.head = some '!' then ('!' :: (name ++ ['!']), q.skip 1) else ('!' :: name, q)

/-- An octet in a tag: a percent sign and two hexadecimal digits. -/
def readOctet? : List Char → Option (Nat × List Char)
  | '%' :: a :: b :: cs => (hexValue? 0 2 [a, b]).map (·, cs)
  | _ => none

/-- An escaped character in a tag: one octet of the ASCII range, or two octets of which the first
one is less than `D8`. -/
def readEscapedChar? (cs : List Char) : Option (Char × List Char) := do
  let (first, cs) ← readOctet? cs
  if first < 0x80 then return (Char.ofNat first, cs)
  if first < 0xC0 ∨ 0xD8 ≤ first then none
  let (second, cs) ← readOctet? cs
  if second < 0x80 ∨ 0xC0 ≤ second then none
  return (Char.ofNat (0x40 * (first - 0xC0) + (second - 0x80)), cs)

/-- The characters of a tag, in at most `fuel` steps. -/
def readUriChars? : Nat → List Char → Option (List Char)
  | _, [] => some []
  | 0, _ => none
  | fuel + 1, c :: cs =>
    if c ≠ '%' then (readUriChars? fuel cs).map (c :: ·)
    else match readEscapedChar? (c :: cs) with
      | some (c, cs) => (readUriChars? fuel cs).map (c :: ·)
      | none => none

/-- What the characters of a tag stand for. It ends before a character of code zero. -/
def readUri? (cs : List Char) : Option (List Char) :=
  (readUriChars? cs.length cs).map fun cs => cs.takeWhile fun c => c.toNat != 0

/-- A tag at its exclamation mark, as its handle, the rest, and the position behind. A tag in angle
brackets has no handle, and neither has a single exclamation mark. -/
def readTag? (inFlow : Bool) (p : Cursor) : Option (String × String × Cursor) := do
  let (handle, suffix, q) ←
    if p.ahead 1 = some '<' then
      let (uri, q) := (p.skip 2).takeWhile (isTagChar true)
      if uri.isEmpty ∨ q.head ≠ some '>' then none
      pure ([], ← readUri? uri, q.skip 1)
    else
      let (handle, q) := readHandle p
      let (suffix, q) := q.takeWhile (isTagChar false)
      if 1 < handle.length ∧ handle.getLast? = some '!' then
        if suffix.isEmpty then none
        pure (handle, ← readUri? suffix, q)
      else
        let suffix ← readUri? (handle.drop 1 ++ suffix)
        pure (if suffix.isEmpty then ([], ['!'], q) else (['!'], suffix, q))
  if endsWord q.head ∨ (inFlow ∧ q.head = some ',') then
    return (String.ofList handle, String.ofList suffix, q)
  none

/-- A tag. -/
def tag? (s : Scanner) : Option Scanner := do
  let s ← s.saveKey?
  let (handle, suffix, p) ← readTag? s.inFlow s.cursor
  return { (s.allowKey false) with cursor := p }.emit (.tag handle suffix)

/-! ## Directives -/

/-- A version number: two numerals of at most nine digits with a point between them. -/
def readVersion? (p : Cursor) : Option (Token × Cursor) := do
  let (major, p) := p.takeWhile Char.isDigit
  if p.head ≠ some '.' ∨ 9 < major.length then none
  let (minor, p) := (p.skip 1).takeWhile Char.isDigit
  if 9 < minor.length then none
  return (.version (← Text.ofDigits? major) (← Text.ofDigits? minor), p)

/-- The declaration of a handle and of the start of its tags. -/
def readHandleDeclaration? (p : Cursor) : Option (Token × Cursor) := do
  if p.head ≠ some '!' then none
  let (handle, p) := readHandle p
  if handle ≠ ['!'] ∧ handle.getLast? ≠ some '!' then none
  if !p.head.any isBlank then none
  let (uri, p) := (p.takeWhile isBlank).2.takeWhile (isTagChar true)
  if uri.isEmpty ∨ !endsWord p.head then none
  return (.tagHandle (String.ofList handle) (String.ofList (← readUri? uri)), p)

/-- A directive at the start of a line. -/
def directive? (s : Scanner) : Option Scanner := do
  let s ← s.endBlocks?
  let (name, p) := (s.cursor.skip 1).takeWhile isNameChar
  if !endsWord p.head then none
  let p := (p.takeWhile isBlank).2
  let (token, p) ←
    if name = "YAML".toList then readVersion? p
    else if name = "TAG".toList then readHandleDeclaration? p
    else none
  let p ← endOfLine? p
  return { s with cursor := p }.emit token

/-! ## Scalars -/

/-- A quoted scalar. -/
def quoted? (s : Scanner) (double : Bool) : Option Scanner := do
  let s ← s.saveKey?
  let (text, p) ← readQuoted? double s.cursor
  return { (s.allowKey false) with cursor := p }.emit (.scalar false text)

/-- A block scalar. -/
def block? (s : Scanner) (literal : Bool) : Option Scanner := do
  let s ← s.dropKey?
  let (text, p) ← readBlock? literal s.indent? s.cursor
  return { (s.allowKey true) with cursor := p }.emit (.scalar false text)

/-- A plain scalar. If a line break follows it, a key may start behind it. -/
def plain? (s : Scanner) : Option Scanner := do
  let s ← s.saveKey?
  let (text, broken, p) ← readPlain? s.inFlow (s.indent?.elim 0 (· + 1)) s.cursor
  return { (s.allowKey broken) with cursor := p }.emit (.scalar true text)

/-- The marks with which no plain scalar starts. -/
def isIndicator (c : Char) : Bool :=
  "-?:,[]\x7b\x7d#&*!|>'\"%@\x60".toList.contains c

/-- A plain scalar may start with these two characters. -/
def startsPlain (inFlow : Bool) (c : Char) (next : Option Char) : Bool :=
  !(isBlank c || isBreak c || isIndicator c) ||
    (c == '-' && !next.any isBlank) ||
    (!inFlow && (c == '?' || c == ':') && !endsWord next)

/-! ## Steps -/

/-- The token that starts with the given character. -/
def token? (s : Scanner) (c : Char) : Option Scanner :=
  let next := s.cursor.ahead 1
  if s.cursor.column = 0 ∧ c = '%' then s.directive?
  else if s.cursor.atMarker '-' then s.documentMarker? .documentStart
  else if s.cursor.atMarker '.' then s.documentMarker? .documentEnd
  else match c with
    | '[' => s.openFlow? .openSequence
    | '\x7b' => s.openFlow? .openMapping
    | ']' => s.closeFlow? .closeSequence
    | '\x7d' => s.closeFlow? .closeMapping
    | ',' => s.flowEntry?
    | '*' => s.name? .alias
    | '&' => s.name? .anchor
    | '!' => s.tag?
    | '\'' => s.quoted? false
    | '"' => s.quoted? true
    | _ =>
      if c = '-' ∧ endsWord next then s.blockEntry?
      else if c = '?' ∧ (s.inFlow ∨ endsWord next) then s.explicitKey?
      else if c = ':' ∧ (s.inFlow ∨ endsWord next) then s.value?
      else if c = '|' ∧ !s.inFlow then s.block? true
      else if c = '>' ∧ !s.inFlow then s.block? false
      else if startsPlain s.inFlow c next then s.plain?
      else none

/-- One more token. The flag says whether there is more: a text ends behind its last character or
behind the end mark of its document, and all blocks end with it. -/
def step? (s : Scanner) : Option (Bool × Scanner) := do
  let s ← (s.skipSpace (s.cursor.rest.length + 1)).dropStaleKeys?
  let s := s.closeBlocks (some s.cursor.column)
  match s.cursor.head with
  | some c => (s.token? c).map fun s => (s.tokens.getLast? != some .documentEnd, s)
  | none => s.endBlocks?.map (false, ·)

/-- All tokens, in at most `fuel` steps. -/
def scan? : Nat → Scanner → Option Scanner
  | 0, _ => none
  | fuel + 1, s => match s.step? with
    | some (true, s) => scan? fuel s
    | some (false, s) => some s
    | none => none

/-- The tokens that follow up to the start mark of a document, in at most `fuel` steps, as long as
they are end marks and directives. -/
def prologue : Nat → Scanner → List Token
  | 0, _ => []
  | fuel + 1, s => match s.step? with
    | none => []
    | some (_, next) => match next.tokens.drop s.tokens.length with
      | [.documentStart] => [.documentStart]
      | [token] => match token with
        | .documentEnd | .version .. | .tagHandle .. => token :: prologue fuel next
        | _ => []
      | _ => []

end Scanner

/-- The tokens of a text up to the end mark of its document, and those behind it that may lead up to
another document. Every step but the last one moves on by a character. -/
def tokens? (cs : List Char) : Option (List Token × List Token) :=
  if cs.all isPrintable then
    let fuel := cs.length + 2
    (Scanner.scan? fuel (.start cs)).map fun s => (s.tokens, s.prologue fuel)
  else none

end OrderDesk.Yaml
