import OrderDesk.Json.Basic

/-!
# JSON tokens

A JSON text is a row of tokens with blanks between them.

## Main definitions

* `OrderDesk.Json.Token`: marks, literals, numbers and strings.
* `OrderDesk.Json.readNumeral?`, `OrderDesk.Json.readString?`: the two tokens with contents.
* `OrderDesk.Json.tokens?`: the tokens of a text.
-/

set_option autoImplicit false

namespace OrderDesk.Json

open Text

/-- A token. -/
inductive Token where
  | openArray
  | closeArray
  | openObject
  | closeObject
  | comma
  | colon
  | null
  | bool (b : Bool)
  | number (n : Numeral)
  | string (text : Option String)
deriving DecidableEq

/-! ## Numbers -/

/-- The longest run of digits, as values, and what follows it. -/
def digitRun : List Char → List Nat × List Char
  | [] => ([], [])
  | c :: cs => match digitValue? c with
    | some d => (d :: (digitRun cs).1, (digitRun cs).2)
    | none => ([], c :: cs)

/-- The digits before the point: a single zero, or digits that do not start with zero. -/
def readWhole? (cs : List Char) : Option (List Nat × List Char) :=
  match cs with
  | '0' :: rest => some ([0], rest)
  | _ => match digitRun cs with
    | ([], _) => none
    | run => some run

/-- The digits behind a point, at least one, if there is a point. -/
def readFraction? (cs : List Char) : Option (List Nat × List Char) :=
  match cs with
  | '.' :: rest => match digitRun rest with
    | ([], _) => none
    | run => some run
  | _ => some ([], cs)

/-- An exponent with at least one digit, if there is the letter `e` in either case. -/
def readExponent? (cs : List Char) : Option (Option Int × List Char) :=
  let signed := fun (sign : Int) (rest : List Char) => match digitRun rest with
    | ([], _) => none
    | (ds, rest) => some (some (sign * Numeral.valueFrom 0 ds), rest)
  let afterMark := fun (rest : List Char) => match rest with
    | '-' :: rest => signed (-1) rest
    | '+' :: rest => signed 1 rest
    | _ => signed 1 rest
  match cs with
  | 'e' :: rest => afterMark rest
  | 'E' :: rest => afterMark rest
  | _ => some (none, cs)

/-- A number without its sign. -/
def readMagnitude? (negative : Bool) (cs : List Char) : Option (Numeral × List Char) := do
  let (whole, cs) ← readWhole? cs
  let (fraction, cs) ← readFraction? cs
  let (exponent, cs) ← readExponent? cs
  return ({ negative, whole, fraction, exponent }, cs)

/-- A number. -/
def readNumeral? (cs : List Char) : Option (Numeral × List Char) :=
  match cs with
  | '-' :: rest => readMagnitude? true rest
  | _ => readMagnitude? false cs

/-! ## Strings -/

/-- The value of a hexadecimal digit in either case. -/
def hexValue? (c : Char) : Option Nat :=
  if '0' ≤ c ∧ c ≤ '9' then some (c.toNat - 48)
  else if 'a' ≤ c ∧ c ≤ 'f' then some (c.toNat - 87)
  else if 'A' ≤ c ∧ c ≤ 'F' then some (c.toNat - 55)
  else none

/-- The value of four hexadecimal digits. -/
def hexUnit? (a b c d : Char) : Option Nat := do
  return 4096 * (← hexValue? a) + 256 * (← hexValue? b) + 16 * (← hexValue? c) + (← hexValue? d)

/-- The character of an escape of one letter. -/
def escaped? (c : Char) : Option Nat :=
  match c with
  | '"' => some 34
  | '\\' => some 92
  | '/' => some 47
  | 'b' => some 8
  | 'f' => some 12
  | 'n' => some 10
  | 'r' => some 13
  | 't' => some 9
  | _ => none

/-- The code points of a string up to its closing quote, and what follows it. Halves of surrogate
pairs are left as they are. -/
def readCodePoints? : List Char → Option (List Nat × List Char)
  | [] => none
  | '"' :: rest => some ([], rest)
  | '\\' :: 'u' :: a :: b :: c :: d :: rest => do
    let unit ← hexUnit? a b c d
    let (units, rest) ← readCodePoints? rest
    return (unit :: units, rest)
  | '\\' :: c :: rest => do
    let unit ← escaped? c
    let (units, rest) ← readCodePoints? rest
    return (unit :: units, rest)
  | c :: rest => do
    if c.toNat < 32 then none
    let (units, rest) ← readCodePoints? rest
    return (c.toNat :: units, rest)

/-- The first half of a surrogate pair. -/
def isHighSurrogate (unit : Nat) : Bool :=
  0xD800 ≤ unit && unit < 0xDC00

/-- The second half of a surrogate pair. -/
def isLowSurrogate (unit : Nat) : Bool :=
  0xDC00 ≤ unit && unit < 0xE000

/-- The text of code points in which surrogates stand in pairs only. -/
def pairSurrogates? : List Nat → Option (List Char)
  | [] => some []
  | unit :: units =>
    if isHighSurrogate unit then
      match units with
      | low :: units =>
        if isLowSurrogate low then
          (pairSurrogates? units).map
            (Char.ofNat (0x10000 + 0x400 * (unit - 0xD800) + (low - 0xDC00)) :: ·)
        else none
      | [] => none
    else if isLowSurrogate unit then none
    else (pairSurrogates? units).map (Char.ofNat unit :: ·)

/-- A string behind its opening quote. -/
def readString? (cs : List Char) : Option (Option String × List Char) :=
  (readCodePoints? cs).map fun (units, rest) => ((pairSurrogates? units).map String.ofList, rest)

/-! ## Tokens -/

/-- The blanks that may stand between tokens. -/
def isSpace (c : Char) : Bool :=
  c == ' ' || c == '\n' || c == '\r' || c == '\t'

/-- The token at the start of a text, and what follows it. -/
def readToken? (cs : List Char) : Option (Token × List Char) :=
  match cs with
  | '[' :: rest => some (.openArray, rest)
  | ']' :: rest => some (.closeArray, rest)
  | '\x7b' :: rest => some (.openObject, rest)
  | '\x7d' :: rest => some (.closeObject, rest)
  | ',' :: rest => some (.comma, rest)
  | ':' :: rest => some (.colon, rest)
  | 'n' :: 'u' :: 'l' :: 'l' :: rest => some (.null, rest)
  | 't' :: 'r' :: 'u' :: 'e' :: rest => some (.bool true, rest)
  | 'f' :: 'a' :: 'l' :: 's' :: 'e' :: rest => some (.bool false, rest)
  | '"' :: rest => (readString? rest).map fun (text, rest) => (.string text, rest)
  | _ => (readNumeral? cs).map fun (n, rest) => (.number n, rest)

/-- The tokens of a text that is at most `fuel` characters long. -/
def tokensWithin? : Nat → List Char → Option (List Token)
  | _, [] => some []
  | 0, _ :: _ => none
  | fuel + 1, c :: cs =>
    if isSpace c then tokensWithin? fuel cs
    else do
      let (token, rest) ← readToken? (c :: cs)
      let tokens ← tokensWithin? fuel rest
      return token :: tokens

/-- The tokens of a text. Every token has a character of its own, so that as many steps as there are
characters suffice. -/
def tokens? (cs : List Char) : Option (List Token) :=
  tokensWithin? cs.length cs

end OrderDesk.Json
