import OrderDesk.Json.Token
import OrderDesk.Yaml.Cursor

/-!
# YAML scalars

The four ways to write a text: in single quotes, in double quotes with escapes, plainly, and as a
block of lines behind `|` or `>`. A scalar of several lines is folded: a line break counts as a
space.

## Main definitions

* `OrderDesk.Yaml.readQuoted?`, `OrderDesk.Yaml.readPlain?`, `OrderDesk.Yaml.readBlock?`: a scalar
  at a position and the position behind it.
-/

set_option autoImplicit false

namespace OrderDesk.Yaml

/-! ## Quoted scalars -/

/-- The character of an escape of one letter. -/
def escapeChar? (c : Char) : Option Char :=
  match c with
  | '0' => some '\x00'
  | 'a' => some '\x07'
  | 'b' => some '\x08'
  | 't' => some '\t'
  | '\t' => some '\t'
  | 'n' => some '\n'
  | 'v' => some '\x0b'
  | 'f' => some '\x0c'
  | 'r' => some '\r'
  | 'e' => some '\x1b'
  | ' ' => some ' '
  | '"' => some '"'
  | '/' => some '/'
  | '\\' => some '\\'
  | 'N' => some '\u0085'
  | '_' => some '\u00a0'
  | 'L' => some '\u2028'
  | 'P' => some '\u2029'
  | _ => none

/-- The number of hexadecimal digits behind the letter of an escape. -/
def escapeDigits? (c : Char) : Option Nat :=
  match c with
  | 'x' => some 2
  | 'u' => some 4
  | 'U' => some 8
  | _ => none

/-- The value of exactly `count` hexadecimal digits. -/
def hexValue? (acc : Nat) : Nat → List Char → Option Nat
  | 0, _ => some acc
  | _ + 1, [] => none
  | count + 1, c :: cs => (Json.hexValue? c).bind fun d => hexValue? (16 * acc + d) count cs

/-- The character of a code point, which must not be a surrogate. -/
def codePoint? (n : Nat) : Option Char :=
  if h : n.isValidChar then some (Char.ofNatAux n h) else none

/-- The character of an escape behind its backslash, and the length of the escape without it. -/
def readEscape? (cs : List Char) : Option (Char × Nat) :=
  match cs with
  | [] => none
  | c :: cs => match escapeDigits? c with
    | some count => ((hexValue? 0 count cs).bind codePoint?).map (·, count + 1)
    | none => (escapeChar? c).map (·, 1)

/-- A word of a quoted scalar: the characters up to a blank, a line break, the closing quote or an
escaped line break, and the gap that such a break begins. -/
def readQuotedWord? (double : Bool) : Nat → Cursor → Option (List Char × Gap × Cursor)
  | 0, _ => none
  | fuel + 1, p =>
    let go := fun (c : Char) (p : Cursor) =>
      (readQuotedWord? double fuel p).map fun (word, rest) => (c :: word, rest)
    match p.rest with
    | [] => some ([], .none, p)
    | '\'' :: '\'' :: _ => if double then go '\'' (p.skip 1) else go '\'' (p.skip 2)
    | c :: cs =>
      if isBlank c || isBreak c then some ([], .none, p)
      else if c = (if double then '"' else '\'') then some ([], .none, p)
      else if double ∧ c = '\\' then
        if (cs.head?.map isBreak).getD false then some ([], .escapedBreak, (p.skip 1).skipBreak)
        else match readEscape? cs with
          | some (char, length) => go char (p.skip (1 + length))
          | none => none
      else go c (p.skip 1)

/-- A quoted scalar behind its opening quote. It must be closed before the text ends, and no
document marker may stand at the start of one of its lines. -/
def readQuotedRest? (double : Bool) : Nat → Cursor → Option (List Char × Cursor)
  | 0, _ => none
  | fuel + 1, p =>
    if p.atDocumentMarker ∨ p.rest.isEmpty then none
    else do
      let (word, gap, p) ← readQuotedWord? double (p.rest.length + 1) p
      if p.head = some (if double then '"' else '\'') ∧ !gap.broken then return (word, p.skip 1)
      let (gap, p) ← Gap.read 0 (p.rest.length + 1) gap p
      let (text, p) ← readQuotedRest? double fuel p
      return (word ++ gap.join ++ text, p)

/-- A quoted scalar at its opening quote. -/
def readQuoted? (double : Bool) (p : Cursor) : Option (String × Cursor) :=
  (readQuotedRest? double (p.rest.length + 1) (p.skip 1)).map fun (text, p) =>
    (String.ofList text, p)

/-! ## Plain scalars -/

/-- The marks of flow collections. -/
def isFlowMark (c : Char) : Bool :=
  c == ',' || c == '[' || c == ']' || c == '\x7b' || c == '\x7d'

/-- The plain scalar ends at a colon before a blank and, in flow collections, at their marks. -/
def endsPlain (inFlow : Bool) (c : Char) (next : Option Char) : Bool :=
  (c == ':' && endsWord next) || (inFlow && isFlowMark c)

/-- In flow collections no colon may stand directly before a mark or a question mark. -/
def misplacedColon (inFlow : Bool) (c : Char) (next : Option Char) : Bool :=
  inFlow && c == ':' && (next.map fun n => isFlowMark n || n == '?').getD false

/-- A word of a plain scalar, and whether the scalar may go on behind it. -/
def readPlainWord? (inFlow : Bool) : Nat → Cursor → Option (List Char × Cursor)
  | 0, _ => none
  | fuel + 1, p => match p.rest with
    | [] => some ([], p)
    | c :: cs =>
      if isBlank c || isBreak c then some ([], p)
      else if misplacedColon inFlow c cs.head? then none
      else if endsPlain inFlow c cs.head? then some ([], p)
      else (readPlainWord? inFlow fuel (p.skip 1)).map fun (word, p) => (c :: word, p)

/-- The words of a plain scalar from a position on, with the gap before it. The scalar ends at a
document marker, at a comment, at a line that is indented less than `indent`, and where a word ends
without a blank. The position given back is behind the gap that follows the last word; the flag says
whether a line break is part of that gap. -/
def readPlainRest? (inFlow : Bool) (indent : Nat) : Nat → Gap → Cursor →
    Option (List Char × Bool × Cursor)
  | 0, _, _ => none
  | fuel + 1, gap, p =>
    if p.atDocumentMarker ∨ p.head = some '#' then some ([], gap.broken, p)
    else do
      let (word, p) ← readPlainWord? inFlow (p.rest.length + 1) p
      let before := if word.isEmpty then [] else gap.join
      let gap := if word.isEmpty then gap else .none
      match p.head with
      | some c =>
        if isBlank c || isBreak c then
          let (gap, p) ← Gap.read indent (p.rest.length + 1) gap p
          if !inFlow ∧ p.column < indent then return (before ++ word, gap.broken, p)
          let (text, broken, p) ← readPlainRest? inFlow indent fuel gap p
          return (before ++ word ++ text, broken, p)
        else return (before ++ word, gap.broken, p)
      | none => return (before ++ word, gap.broken, p)

/-- A plain scalar, whether a line break follows it, and the position behind. -/
def readPlain? (inFlow : Bool) (indent : Nat) (p : Cursor) : Option (String × Bool × Cursor) :=
  (readPlainRest? inFlow indent (p.rest.length + 1) .none p).map fun (text, broken, p) =>
    (String.ofList text, broken, p)

/-! ## Block scalars -/

/-- What becomes of the line breaks at the end of a block. -/
inductive Chomping where
  | strip
  | clip
  | keep
deriving DecidableEq

/-- The digit of an explicit indentation, from 1 to 9. -/
def indentDigit? (c : Char) : Option Nat :=
  if '1' ≤ c ∧ c ≤ '9' then some (c.toNat - 48) else none

/-- The sign of a chomping. -/
def chomping? (c : Char) : Option Chomping :=
  if c = '+' then some .keep else if c = '-' then some .strip else none

/-- The chomping and the explicit indentation of a block, in either order. A zero is refused. -/
def readHeader? (p : Cursor) : Option (Chomping × Option Nat × Cursor) :=
  let digit := fun (p : Cursor) => match p.head with
    | some '0' => none
    | some c => match indentDigit? c with
      | some d => some (some d, p.skip 1)
      | none => some (none, p)
    | none => some (none, p)
  match p.head.bind chomping? with
  | some chomping => (digit (p.skip 1)).map fun (indent, p) => (chomping, indent, p)
  | none => (digit p).map fun (indent, p) =>
    match indent, p.head.bind chomping? with
    | some _, some chomping => (chomping, indent, p.skip 1)
    | _, _ => (.clip, indent, p)

/-- The position behind blanks and a comment, which must be the end of a line. -/
def endOfLine? (p : Cursor) : Option Cursor :=
  let p := (p.takeWhile isBlank).2
  let p := if p.head = some '#' then (p.takeWhile fun c => !isBreak c).2 else p
  if endsLine p.head then some p.skipBreak else none

/-- The empty lines at a position, the largest column reached in them, and the position at the first
character that belongs to the block or ends it. Without a known indentation all spaces are taken. -/
def readEmptyLines? (indent : Option Nat) : Nat → Nat → List Char → Cursor →
    Option (List Char × Nat × Cursor)
  | 0, widest, breaks, p => some (breaks, widest, p)
  | fuel + 1, widest, breaks, p =>
    let inside := fun (p : Cursor) => indent.all fun n => p.column < n
    let width := match indent with
      | some n => n - p.column
      | none => p.rest.length
    let p := p.skip ((p.rest.take width).takeWhile (· == ' ')).length
    let widest := max widest p.column
    match p.head with
    | some '\t' => if inside p then none else some (breaks, widest, p)
    | some c =>
      if isBreak c then
        readEmptyLines? indent fuel widest (breaks ++ [Cursor.breakChar c]) p.skipBreak
      else some (breaks, widest, p)
    | none => some (breaks, widest, p)

/-- The lines of a block, the line break behind the last one, and the empty lines behind that. -/
def readLines? (literal : Bool) (indent : Nat) : Nat → (leadingBreak moreBreaks : List Char) →
    (afterBlank : Bool) → Cursor → Option (List Char × List Char × List Char × Cursor)
  | 0, _, _, _, _ => none
  | fuel + 1, leadingBreak, moreBreaks, afterBlank, p =>
    if p.column ≠ indent ∨ p.rest.isEmpty then some ([], leadingBreak, moreBreaks, p)
    else do
      let blank := (p.head.map isBlank).getD false
      let folds := !literal && leadingBreak == ['\n'] && !afterBlank && !blank
      let before :=
        if folds then if moreBreaks.isEmpty then [' '] else moreBreaks
        else leadingBreak ++ moreBreaks
      let (line, p) := p.takeWhile fun c => !isBreak c
      let leadingBreak := (p.head.map fun c => [Cursor.breakChar c]).getD []
      let p := p.skipBreak
      let (moreBreaks, _, p) ← readEmptyLines? (some indent) (p.rest.length + 1) 0 [] p
      let (text, rest) ← readLines? literal indent fuel leadingBreak moreBreaks blank p
      return (before ++ line ++ text, rest)

/-- A block scalar at its mark. `parent` is the column of the collection around it, if there is
one. -/
def readBlock? (literal : Bool) (parent : Option Nat) (p : Cursor) : Option (String × Cursor) := do
  let (chomping, explicitIndent, p) ← readHeader? (p.skip 1)
  let p ← endOfLine? p
  let explicitIndent := explicitIndent.map (parent.getD 0 + ·)
  let (breaks, widest, p) ← readEmptyLines? explicitIndent (p.rest.length + 1) 0 [] p
  let least := (parent.elim 0 (· + 1)) |> max 1
  let indent := explicitIndent.getD (max widest least)
  let (text, leadingBreak, moreBreaks, p) ←
    readLines? literal indent (p.rest.length + 1) [] breaks false p
  let ending := match chomping with
    | .strip => []
    | .clip => leadingBreak
    | .keep => leadingBreak ++ moreBreaks
  return (String.ofList (text ++ ending), p)

end OrderDesk.Yaml
