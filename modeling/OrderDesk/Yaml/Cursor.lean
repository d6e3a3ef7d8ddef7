/-!
# Positions in a YAML text

The classes of characters that matter to YAML, and a position in a text that knows its line and
column.

## Main definitions

* `OrderDesk.Yaml.isBreak`, `OrderDesk.Yaml.isBlank`: line breaks; spaces and tabs.
* `OrderDesk.Yaml.Cursor`: a position and the text behind it.
* `OrderDesk.Yaml.Gap`: what stands between two words of a scalar.
-/

set_option autoImplicit false

namespace OrderDesk.Yaml

/-! ## Characters -/

/-- A character that ends a line. -/
def isBreak (c : Char) : Bool :=
  c == '\n' || c == '\r' || c.toNat == 0x85 || c.toNat == 0x2028 || c.toNat == 0x2029

/-- A space or a tab. -/
def isBlank (c : Char) : Bool :=
  c == ' ' || c == '\t'

/-- A blank, a line break or the end of the text. -/
def endsWord : Option Char → Bool
  | none => true
  | some c => isBlank c || isBreak c

/-- A line break or the end of the text. -/
def endsLine : Option Char → Bool
  | none => true
  | some c => isBreak c

/-- A character that a YAML text may hold. -/
def isPrintable (c : Char) : Bool :=
  let n := c.toNat
  n == 0x09 || n == 0x0A || n == 0x0D || (0x20 ≤ n && n ≤ 0x7E) || n == 0x85 ||
    (0xA0 ≤ n && n ≤ 0xD7FF) || (0xE000 ≤ n && n ≤ 0xFFFD) || 0x10000 ≤ n

/-- A letter, a digit, an underscore or a hyphen. -/
def isNameChar (c : Char) : Bool :=
  c.isAlphanum || c == '_' || c == '-'

/-- The byte order mark. -/
def byteOrderMark : Char := '\ufeff'

/-! ## Positions -/

/-- A position in a text. -/
structure Cursor where
  /-- The text from the position on. -/
  rest : List Char
  line : Nat
  column : Nat
  /-- The number of bytes before the position. -/
  index : Nat

namespace Cursor

/-- The start of a text. -/
def start (cs : List Char) : Cursor :=
  { rest := cs, line := 0, column := 0, index := 0 }

/-- The character at the position. -/
def head (p : Cursor) : Option Char :=
  p.rest.head?

/-- The character `k` places behind the position. -/
def ahead (p : Cursor) (k : Nat) : Option Char :=
  p.rest[k]?

/-- The number of bytes of a row of characters. -/
def byteCount (cs : List Char) : Nat :=
  cs.foldr (fun c n => c.utf8Size + n) 0

/-- The position behind `n` characters of a line. -/
def skip (p : Cursor) (n : Nat) : Cursor :=
  { p with
    rest := p.rest.drop n
    column := p.column + n
    index := p.index + byteCount (p.rest.take n) }

/-- The position behind a byte order mark at the start of a line, which takes up a column. -/
def skipByteOrderMark (p : Cursor) : Cursor :=
  if p.column = 0 ∧ p.head = some byteOrderMark then p.skip 1 else p

/-- The position behind a line break; a carriage return and a line feed are one break. -/
def skipBreak (p : Cursor) : Cursor :=
  let next := fun n => { p.skip n with line := p.line + 1, column := 0 }
  match p.rest with
  | '\r' :: '\n' :: _ => next 2
  | _ :: _ => next 1
  | [] => p

/-- A line break as it is kept in a scalar. -/
def breakChar (c : Char) : Char :=
  if c.toNat = 0x2028 ∨ c.toNat = 0x2029 then c else '\n'

/-- The position behind the characters of a line that belong to a class, and these characters. -/
def takeWhile (p : Cursor) (member : Char → Bool) : List Char × Cursor :=
  let taken := p.rest.takeWhile member
  (taken, p.skip taken.length)

/-- The position stands at three equal characters and the end of a word, at the start of a line. -/
def atMarker (p : Cursor) (c : Char) : Bool :=
  p.column == 0 && p.head == some c && p.ahead 1 == some c && p.ahead 2 == some c &&
    endsWord (p.ahead 3)

/-- The position stands at the start or the end mark of a document. -/
def atDocumentMarker (p : Cursor) : Bool :=
  p.atMarker '-' || p.atMarker '.'

end Cursor

/-! ## Gaps -/

/-- What stands between two words of a scalar: blanks, or line breaks with blanks around them. -/
structure Gap where
  /-- The blanks before the first line break. -/
  blanks : List Char
  /-- There is a line break, possibly one that is escaped and left out. -/
  broken : Bool
  /-- The first line break. -/
  firstBreak : List Char
  /-- The other line breaks. -/
  moreBreaks : List Char

namespace Gap

/-- No gap. -/
def none : Gap :=
  { blanks := [], broken := false, firstBreak := [], moreBreaks := [] }

/-- An escaped line break. -/
def escapedBreak : Gap :=
  { none with broken := true }

/-- What a gap stands for: blanks are kept, one line break is a space, further ones are kept. -/
def join (g : Gap) : List Char :=
  if !g.broken then g.blanks
  else if g.firstBreak = ['\n'] then
    if g.moreBreaks.isEmpty then [' '] else g.moreBreaks
  else g.firstBreak ++ g.moreBreaks

/-- The gap at a position and the position behind it, read from a gap that has begun. Behind a line
break no tab may stand to the left of `indent`. -/
def read (indent : Nat) : Nat → Gap → Cursor → Option (Gap × Cursor)
  | 0, g, p => some (g, p)
  | fuel + 1, g, p => match p.head with
    | .none => some (g, p)
    | some c =>
      if isBlank c then
        if g.broken then
          if p.column < indent ∧ c = '\t' then .none else read indent fuel g (p.skip 1)
        else read indent fuel { g with blanks := g.blanks ++ [c] } (p.skip 1)
      else if isBreak c then
        let char := Cursor.breakChar c
        if g.broken then
          read indent fuel { g with moreBreaks := g.moreBreaks ++ [char] } p.skipBreak
        else
          read indent fuel { g with blanks := [], broken := true, firstBreak := [char] } p.skipBreak
      else some (g, p)

end Gap

end OrderDesk.Yaml
