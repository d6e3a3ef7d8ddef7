import OrderDesk.Yaml.Scalar

/-!
# Positions under the strict rules

A YAML text has to be well formed under rules that are stricter than those by which its values are
read: lines end at carriage returns and line feeds only, a comment needs a blank before it, and the
words of a quoted scalar in a block are indented further than the block. This module passes over
blanks, comments and scalars under these rules; what a scalar says does not matter here.

## Main definitions

* `OrderDesk.Yaml.Strict.Position`: a position that knows its line and its column.
* `OrderDesk.Yaml.Strict.Position.restOfLine?`: blanks and a comment.
* `OrderDesk.Yaml.Strict.Position.quoted?`, `OrderDesk.Yaml.Strict.Position.plain?`,
  `OrderDesk.Yaml.Strict.Position.block?`: the position behind a scalar.
-/

set_option autoImplicit false

namespace OrderDesk.Yaml.Strict

/-! ## Characters -/

/-- A character that ends a line. -/
def isBreak (c : Char) : Bool :=
  c == '\n' || c == '\r'

/-- A blank or a line break. -/
def isSpace (c : Char) : Bool :=
  isBlank c || isBreak c

/-- A line break or the end of the text. -/
def endsLine (c? : Option Char) : Bool :=
  c?.all isBreak

/-- A blank, a line break or the end of the text. -/
def endsWord (c? : Option Char) : Bool :=
  c?.all isSpace

/-! ## Positions -/

/-- A position in a text. -/
structure Position where
  /-- The text from the position on. -/
  rest : List Char
  line : Nat
  column : Nat
  /-- The number of characters before the position. -/
  index : Nat
  /-- Nothing but blanks stands before the position on its line. -/
  leading : Bool

namespace Position

/-- The start of a text. -/
def start (cs : List Char) : Position :=
  { rest := cs, line := 0, column := 0, index := 0, leading := true }

/-- The character at the position. -/
def head (p : Position) : Option Char :=
  p.rest.head?

/-- The character `k` places behind the position. -/
def ahead (p : Position) (k : Nat) : Option Char :=
  p.rest[k]?

/-- The position behind `n` blanks or characters of a comment. -/
def pass (p : Position) (n : Nat) : Position :=
  { p with rest := p.rest.drop n, column := p.column + n, index := p.index + n }

/-- The position behind `n` characters of a token. -/
def step (p : Position) (n : Nat) : Position :=
  { p.pass n with leading := p.leading && n == 0 }

/-- The position behind the blanks or characters of a comment that belong to a class. -/
def passWhile (p : Position) (member : Char → Bool) : Position :=
  p.pass (p.rest.takeWhile member).length

/-- The position behind a line break, or the same position where there is none. -/
def nextLine (p : Position) : Position :=
  let next := fun n =>
    { p.pass n with line := p.line + 1, column := 0, leading := true }
  match p.rest with
  | '\r' :: '\n' :: _ => next 2
  | c :: _ => if isBreak c then next 1 else p
  | [] => p

/-- The position stands at the start of a line and at three hyphens or three points that end a
word. -/
def atMarker (p : Position) : Bool :=
  p.column == 0 && (['-', '.'].any fun c => p.rest.take 3 == [c, c, c]) && endsWord (p.ahead 3)

/-- The position behind blanks and a comment, which needs a blank before it. -/
def restOfLine? (p : Position) : Option Position :=
  let q := p.passWhile isBlank
  if q.head ≠ some '#' then some q
  else if q.index = p.index then none
  else some (q.passWhile fun c => !isBreak c)

/-- The position at the end of a line on which nothing but blanks and a comment is left. -/
def endOfLine? (p : Position) : Option Position :=
  p.restOfLine?.filter fun q => endsLine q.head

/-! ## Quoted scalars -/

/-- The position behind a word of a quoted scalar, and whether an escaped line break ends it. -/
def quotedWord? (double : Bool) : Nat → Position → Option (Bool × Position)
  | 0, _ => none
  | fuel + 1, p => match p.rest with
    | [] => some (false, p)
    | '\'' :: '\'' :: _ => quotedWord? double fuel (p.step (if double then 1 else 2))
    | c :: cs =>
      if isSpace c ∨ c = (if double then '"' else '\'') then some (false, p)
      else if double ∧ c = '\\' then
        if cs.head?.any isBreak then some (true, (p.step 1).nextLine)
        else match readEscape? cs with
          | some (_, length) => quotedWord? double fuel (p.step (1 + length))
          | none => none
      else quotedWord? double fuel (p.step 1)

/-- The position behind blanks and line breaks in a quoted scalar, and whether a line break is among
them or before them. Behind a line break no tab may stand to the left of `indent`. -/
def quotedGap? (indent : Int) : Nat → (broken : Bool) → Position → Option (Bool × Position)
  | 0, broken, p => some (broken, p)
  | fuel + 1, broken, p => match p.head with
    | none => some (broken, p)
    | some c =>
      if isBlank c then
        if broken ∧ c = '\t' ∧ p.column < indent then none
        else quotedGap? indent fuel broken (p.pass 1)
      else if isBreak c then quotedGap? indent fuel true p.nextLine
      else some (broken, p)

/-- The position behind a quoted scalar, from a position in it. No line of it starts with a document
marker. In a block, a word at the start of a line stands to the right of `indent`; the closing quote
may stand anywhere. -/
def quotedRest? (double inFlow : Bool) (indent : Int) : Nat → Position → Option Position
  | 0, _ => none
  | fuel + 1, p => do
    if p.rest.isEmpty ∨ p.atMarker then none
    let quote := if double then '"' else '\''
    let (broken, p) ← quotedWord? double (p.rest.length + 1) p
    if p.head = some quote then return p.step 1
    let (broken, p) ← quotedGap? indent (p.rest.length + 1) broken p
    if broken ∧ !inFlow ∧ p.head ≠ some quote ∧ p.column ≤ indent then none
    quotedRest? double inFlow indent fuel p

/-- The position behind a quoted scalar. Only a colon may follow on the same line, and in a block
only if the scalar has a single line; in flow collections their marks may follow as well. -/
def quoted? (double inFlow : Bool) (indent : Int) (p : Position) : Option Position := do
  let q ← (← quotedRest? double inFlow indent (p.rest.length + 1) (p.step 1)).restOfLine?
  let follows := fun c =>
    if c == ':' then inFlow || p.line == q.line
    else inFlow && [',', ']', '\x7d'].contains c
  if endsLine q.head ∨ q.head.any follows then some q else none

/-! ## Plain scalars -/

/-- The plain scalar ends at a colon before a blank and, in flow collections, at their marks and at
a colon before them. -/
def endsPlain (inFlow : Bool) (c : Char) (next : Option Char) : Bool :=
  (c == ':' && (endsWord next || (inFlow && next.any isFlowMark))) || (inFlow && isFlowMark c)

/-- The length of a word of a plain scalar. -/
def wordLength (inFlow : Bool) : List Char → Nat
  | [] => 0
  | c :: cs => if isSpace c || endsPlain inFlow c cs.head? then 0 else wordLength inFlow cs + 1

/-- The position behind blanks and line breaks in a plain scalar. A tab to the left of `indent`
stands only on lines without a word. -/
def plainGap? (indent : Int) : Nat → Position → Option Position
  | 0, p => some p
  | fuel + 1, p => match p.head with
    | none => some p
    | some c =>
      if isBlank c then
        if p.leading ∧ c = '\t' ∧ p.column < indent then
          match p.endOfLine? with
          | some p => plainGap? indent fuel p
          | none => none
        else plainGap? indent fuel (p.pass 1)
      else if isBreak c then plainGap? indent fuel p.nextLine
      else some p

/-- The position behind a plain scalar and the gap that follows it, from the start of a word. The
scalar ends at a comment, at a document marker, and in a block at a line to the left of
`indent`. -/
def plainRest? (inFlow : Bool) (indent : Int) : Nat → Position → Option Position
  | 0, _ => none
  | fuel + 1, p =>
    if p.atMarker ∨ p.head = some '#' then some p
    else
      let p := p.step (wordLength inFlow p.rest)
      if !p.head.any isSpace then some p
      else do
        let p ← plainGap? indent (p.rest.length + 1) p
        if !inFlow ∧ p.column < indent then some p else plainRest? inFlow indent fuel p

/-- The position behind a plain scalar, which has at least one character. In flow collections it
does not start with a hyphen before one of their marks. -/
def plain? (inFlow : Bool) (indent : Int) (p : Position) : Option Position :=
  if inFlow ∧ p.head = some '-' ∧ (p.ahead 1).any isFlowMark then none
  else (plainRest? inFlow indent (p.rest.length + 1) p).filter fun q => p.index < q.index

/-! ## Block scalars -/

/-- The position behind the spaces of a line, up to a column if one is given, and behind the lines
that have nothing else; and the largest column reached. -/
def emptyLines (indent : Option Nat) : Nat → Nat → Position → Nat × Position
  | 0, widest, p => (widest, p)
  | fuel + 1, widest, p =>
    let width := match indent with
      | some n => n - p.column
      | none => p.rest.length
    let p := p.pass ((p.rest.take width).takeWhile (· == ' ')).length
    let widest := max widest p.column
    if p.head.any isBreak then emptyLines indent fuel widest p.nextLine else (widest, p)

/-- The position behind the lines of a block. -/
def blockLines (indent : Nat) : Nat → Position → Position
  | 0, p => p
  | fuel + 1, p =>
    if p.column ≠ indent ∨ p.rest.isEmpty ∨ (indent = 0 ∧ p.atMarker) then p
    else
      let p := (p.passWhile fun c => !isBreak c).nextLine
      blockLines indent fuel (emptyLines (some indent) (p.rest.length + 1) 0 p).2

/-- The explicit indentation of a block behind its mark, and the position behind its header. -/
def blockHeader? (p : Position) : Option (Option Nat × Position) :=
  let digit := fun (p : Position) => match p.head with
    | some '0' => none
    | some c => match indentDigit? c with
      | some d => some (some d, p.step 1)
      | none => some (none, p)
    | none => some (none, p)
  if p.head.any fun c => (chomping? c).isSome then digit (p.step 1)
  else (digit p).map fun (indent, q) =>
    if indent.isSome && q.head.any fun c => (chomping? c).isSome then (indent, q.step 1)
    else (indent, q)

/-- The position behind a block scalar. Its first line starts with no tab, and not between the
indentation of the block around it and its own. -/
def block? (parent : Int) (p : Position) : Option Position := do
  let (explicitIndent, p) ← blockHeader? (p.step 1)
  let p := (← p.endOfLine?).nextLine
  if p.head = some '\t' then none
  let explicitIndent := explicitIndent.map fun n => (max 0 parent).toNat + n
  let (widest, p) := emptyLines explicitIndent (p.rest.length + 1) 0 p
  let indent := explicitIndent.getD (max widest (parent + 1).toNat)
  if p.rest.isEmpty then return p
  if p.column < indent ∧ parent < p.column then none
  return blockLines indent (p.rest.length + 1) p

end Position

end OrderDesk.Yaml.Strict
