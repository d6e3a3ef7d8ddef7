import OrderDesk.Json.Reader
import OrderDesk.Proofs.Numeral

/-!
# JSON texts are read back

A value that has a written form is read back from it. The form is read in two passes, and each is
followed on its own: the characters of a value are read as its row of tokens, whatever comes
behind, and its row of tokens is read as the value. A number is the only token whose end is not
written, so that it has to be followed by something that does not go on with it.

## Main definitions

* `OrderDesk.Json.Numeral.IsWritten`, `OrderDesk.Json.IsWritten` — numbers and values that have a
  written form.
* `OrderDesk.Json.tokens` — the row of tokens of a value.
* `OrderDesk.Json.EndsNumber` — texts that do not go on with a number.
* `OrderDesk.Json.Spells` — characters that are read as a row of tokens.
* `OrderDesk.Json.TokensHold` — values that are read from their tokens.

## Main results

* `OrderDesk.Json.readToken?_chars`, `OrderDesk.Json.readToken?_quoted` — numbers and strings are
  read back.
* `OrderDesk.Json.IsWritten.spells` — a value is read as its tokens.
* `OrderDesk.Json.IsWritten.tokensHold` — the tokens of a value are read as the value.
* `OrderDesk.Json.IsWritten.parse?_text` — a value is read back from its text.
-/

set_option autoImplicit false

namespace OrderDesk.Json

open Text

/-! ## Values that have a written form -/

/-- Digits may stand **before the point**: a single zero, or digits that do not start with zero. -/
def Numeral.IsWholePart (ds : List Nat) : Prop :=
  ds = [0] ∨ ∃ d ds', ds = d :: ds' ∧ d ≠ 0

/-- There is a digit before the point. -/
theorem Numeral.IsWholePart.exists_cons {ds : List Nat} (h : IsWholePart ds) :
    ∃ d ds', ds = d :: ds' := by
  rcases h with rfl | ⟨d, ds', rfl, -⟩
  · exact ⟨0, [], rfl⟩
  · exact ⟨d, ds', rfl⟩

/-- A number **has a written form** if its digits are digits and its first digit is not needless. -/
structure Numeral.IsWritten (n : Numeral) : Prop where
  whole : IsWholePart n.whole
  digit_lt : ∀ d ∈ n.whole ++ n.fraction, d < 10

/-- A value **has a written form** if all numbers in it have. -/
inductive IsWritten : Json → Prop
  | null : IsWritten null
  | bool (b : Bool) : IsWritten (bool b)
  | number {n : Numeral} (h : n.IsWritten) : IsWritten (number n)
  | string (text : Option String) : IsWritten (string text)
  | array {items : List Json} (h : ∀ item ∈ items, IsWritten item) : IsWritten (array items)
  | object {members : List (Option String × Json)} (h : ∀ member ∈ members, IsWritten member.2) :
    IsWritten (object members)

mutual

/-- The row of tokens of a value. -/
def tokens : Json → List Token
  | null => [.null]
  | bool b => [.bool b]
  | number n => [.number n]
  | string text => [.string text]
  | array items => .openArray :: (itemsTokens items ++ [.closeArray])
  | object members => .openObject :: (membersTokens members ++ [.closeObject])

/-- The row of tokens of the items of an array. -/
def itemsTokens : List Json → List Token
  | [] => []
  | [item] => item.tokens
  | item :: item' :: items => item.tokens ++ .comma :: itemsTokens (item' :: items)

/-- The row of tokens of the members of an object. -/
def membersTokens : List (Option String × Json) → List Token
  | [] => []
  | [(name, value)] => .string name :: .colon :: value.tokens
  | (name, value) :: member :: members =>
    .string name :: .colon :: (value.tokens ++ .comma :: membersTokens (member :: members))

end

/-! ## Written numbers -/

namespace Numeral

/-- The written form of the digits behind the point. -/
def fractionChars (ds : List Nat) : List Char :=
  if ds.isEmpty then [] else '.' :: ds.map digitChar

/-- The written form of an exponent. -/
def exponentChars : Option Int → List Char
  | some e => 'e' :: signedDigits e
  | none => []

/-- The written form of a number without its sign. -/
def magnitudeChars (n : Numeral) : List Char :=
  n.whole.map digitChar ++ fractionChars n.fraction ++ exponentChars n.exponent

/-- A number is written with its sign before it. -/
theorem chars_eq (n : Numeral) :
    n.chars = (if n.negative then ['-'] else []) ++ n.magnitudeChars := by
  have happend (a b c d : List Char) : a ++ b ++ c ++ d = a ++ (b ++ c ++ d) := by
    simp only [List.append_assoc]
  exact happend _ _ _ (exponentChars n.exponent)

end Numeral

/-- The digits of a number are the characters of its digits. -/
theorem map_digitsOf (n : Nat) : (Numeral.digitsOf n).map digitChar = digits n := by
  induction n using digits.induct with
  | case1 n hn => rw [Numeral.digitsOf, digits, if_pos hn, if_pos hn, List.map_singleton]
  | case2 n hn ih =>
    rw [Numeral.digitsOf, digits, if_neg hn, if_neg hn, List.map_append, ih, List.map_singleton]

/-- The digits of a number are digits, and spell the number. -/
theorem digitsOf_spec (n : Nat) :
    (∀ d ∈ Numeral.digitsOf n, d < 10) ∧ Numeral.valueFrom 0 (Numeral.digitsOf n) = n := by
  induction n using Numeral.digitsOf.induct with
  | case1 n hn =>
    rw [Numeral.digitsOf, if_pos hn]
    exact ⟨by simpa using hn, by simp [Numeral.valueFrom]⟩
  | case2 n hn ih =>
    rw [Numeral.digitsOf, if_neg hn]
    constructor
    · intro d hd
      rcases List.mem_append.1 hd with hrest | hlast
      · exact ih.1 d hrest
      · rw [List.mem_singleton.1 hlast]
        exact Nat.mod_lt n (by decide)
    · have hvalue := ih.2
      unfold Numeral.valueFrom at hvalue ⊢
      rw [List.foldl_append, hvalue]
      exact Nat.div_add_mod n 10

/-- The digits of a number do not start with a needless zero. -/
theorem isWholePart_digitsOf (n : Nat) : Numeral.IsWholePart (Numeral.digitsOf n) := by
  induction n using Numeral.digitsOf.induct with
  | case1 n hn =>
    rw [Numeral.digitsOf, if_pos hn]
    by_cases hzero : n = 0
    · exact .inl (by rw [hzero])
    · exact .inr ⟨n, [], rfl, hzero⟩
  | case2 n hn ih =>
    rw [Numeral.digitsOf, if_neg hn]
    rcases ih with hzero | ⟨d, ds, hds, hd⟩
    · have hvalue := (digitsOf_spec (n / 10)).2
      rw [hzero, Numeral.valueFrom, List.foldl_cons, List.foldl_nil] at hvalue
      omega
    · exact .inr ⟨d, ds ++ [n % 10], by rw [hds, List.cons_append], hd⟩

/-- A whole number has a written form. -/
theorem Numeral.isWritten_ofInt (n : Int) : (Numeral.ofInt n).IsWritten where
  whole := isWholePart_digitsOf n.natAbs
  digit_lt d hd := (digitsOf_spec n.natAbs).1 d (by simpa [Numeral.ofInt] using hd)

/-! ## Written values -/

/-- A text has a written form. -/
@[simp]
theorem isWritten_ofText (s : String) : (ofText s).IsWritten :=
  .string (some s)

/-- A truth value has a written form. -/
@[simp]
theorem isWritten_bool (b : Bool) : (bool b).IsWritten :=
  .bool b

/-- A whole number has a written form. -/
@[simp]
theorem isWritten_ofInt (n : Int) : (ofInt n).IsWritten :=
  .number (Numeral.isWritten_ofInt n)

/-- A value that may be missing has a written form, in either case. -/
@[simp]
theorem isWritten_ofOption {α : Type} {toJson : α → Json} {a : Option α} :
    (ofOption toJson a).IsWritten ↔ ∀ b ∈ a, (toJson b).IsWritten := by
  cases a with
  | none =>
    constructor
    · intro _ b hb
      cases hb
    · exact fun _ => IsWritten.null
  | some a => simp [ofOption]

/-- An object has a written form if all values in it have. -/
@[simp]
theorem isWritten_object {members : List (Option String × Json)} :
    (object members).IsWritten ↔ ∀ member ∈ members, member.2.IsWritten := by
  constructor
  · intro h
    cases h with
    | object h => exact h
  · exact .object

/-- An object with given members has a written form if all values in it have. -/
@[simp]
theorem isWritten_ofMembers {members : List (String × Json)} :
    (ofMembers members).IsWritten ↔ ∀ member ∈ members, member.2.IsWritten := by
  rw [ofMembers, isWritten_object, List.forall_mem_map]

/-- An array has a written form if all values in it have. -/
@[simp]
theorem isWritten_array {items : List Json} :
    (array items).IsWritten ↔ ∀ item ∈ items, item.IsWritten := by
  constructor
  · intro h
    cases h with
    | array h => exact h
  · exact .array

/-! ## Reading numbers -/

/-- A text does not go on with digits. -/
def EndsDigits (cs : List Char) : Prop :=
  ∀ c ∈ cs.head?, digitValue? c = none

/-- A text **does not go on with a number**: its first character cannot stand in one behind a
digit. -/
def EndsNumber (cs : List Char) : Prop :=
  ∀ c ∈ cs.head?, digitValue? c = none ∧ c ≠ '.' ∧ c ≠ 'e' ∧ c ≠ 'E'

variable {rest : List Char}

/-- A text that does not go on with a number does not go on with digits. -/
theorem EndsNumber.endsDigits (h : EndsNumber rest) : EndsDigits rest :=
  fun c hc => (h c hc).1

/-- Nothing goes on with nothing. -/
theorem endsNumber_nil : EndsNumber [] := by
  simp [EndsNumber]

/-- The marks that may stand behind a value. -/
def closingMarks : List Char :=
  [',', ':', ']', '\x7d']

/-- A mark is no part of a number, and it is not blank. -/
theorem of_mem_closingMarks {c : Char} (hc : c ∈ closingMarks) :
    (digitValue? c = none ∧ c ≠ '.' ∧ c ≠ 'e' ∧ c ≠ 'E') ∧ isSpace c = false := by
  simp only [closingMarks, List.mem_cons, List.not_mem_nil, or_false] at hc
  rcases hc with rfl | rfl | rfl | rfl <;> decide

/-- A mark does not go on with a number. -/
theorem endsNumber_cons {c : Char} (hc : c ∈ closingMarks) : EndsNumber (c :: rest) := by
  intro d hd
  obtain rfl : c = d := by simpa using hd
  exact (of_mem_closingMarks hc).1

/-- A row of digits is read up to its end. -/
theorem digitRun_append {ds : List Nat} (hds : ∀ d ∈ ds, d < 10) (hrest : EndsDigits rest) :
    digitRun (ds.map digitChar ++ rest) = (ds, rest) := by
  induction ds with
  | nil =>
    cases rest with
    | nil => rfl
    | cons c rest =>
      rw [List.map_nil, List.nil_append, digitRun, hrest c rfl]
  | cons d ds ih =>
    have hvalue : digitValue? (digitChar d) = some d :=
      digitValue?_eq_some_iff.2 ⟨hds d List.mem_cons_self, rfl⟩
    rw [List.map_cons, List.cons_append, digitRun, hvalue,
      ih fun d hd => hds d (List.mem_cons_of_mem _ hd)]

/-- Digits without a needless zero are read back. -/
theorem readWhole?_append {ds : List Nat} (hwhole : Numeral.IsWholePart ds)
    (hds : ∀ d ∈ ds, d < 10) (hrest : EndsDigits rest) :
    readWhole? (ds.map digitChar ++ rest) = some (ds, rest) := by
  rcases hwhole with rfl | ⟨d, ds, rfl, hd⟩
  · rfl
  · have hne : digitChar d ≠ '0' := by
      have hall : ∀ d : Fin 10, d.val ≠ 0 → digitChar d ≠ '0' := by decide
      exact hall ⟨d, hds d List.mem_cons_self⟩ hd
    unfold readWhole?
    split
    · next heq => exact (hne (List.cons.inj heq).1).elim
    · rw [digitRun_append hds hrest]

/-- The digits behind the point are read back. -/
theorem readFraction?_append {ds : List Nat} (hds : ∀ d ∈ ds, d < 10) (hrest : EndsDigits rest)
    (hpoint : '.' ∉ rest.head?) :
    readFraction? (Numeral.fractionChars ds ++ rest) = some (ds, rest) := by
  cases ds with
  | nil =>
    unfold readFraction?
    split
    · next heq => exact (hpoint (by simp [show rest = _ from heq])).elim
    · rfl
  | cons d ds =>
    change readFraction? ('.' :: ((d :: ds).map digitChar ++ rest)) = _
    rw [readFraction?, digitRun_append hds hrest]

/-- An exponent is read back. -/
theorem readExponent?_append (exponent : Option Int) (hrest : EndsNumber rest) :
    readExponent? (Numeral.exponentChars exponent ++ rest) = some (exponent, rest) := by
  cases exponent with
  | none =>
    unfold readExponent? Numeral.exponentChars
    dsimp only [List.nil_append]
    split
    · exact ((hrest 'e' rfl).2.2.1 rfl).elim
    · exact ((hrest 'E' rfl).2.2.2 rfl).elim
    · rfl
  | some e =>
    obtain ⟨hdigits, hvalue⟩ := digitsOf_spec e.natAbs
    have hrun := digitRun_append hdigits hrest.endsDigits
    obtain ⟨k, ks, hks⟩ := (isWholePart_digitsOf e.natAbs).exists_cons
    rw [map_digitsOf, hks] at hrun
    rw [hks] at hvalue
    unfold readExponent? Numeral.exponentChars signedDigits
    by_cases hneg : e < 0
    · simp only [if_pos hneg, List.cons_append, hrun, hvalue]
      rw [show (-1 * (e.natAbs : Int)) = e by omega]
    · obtain ⟨c, cs, hcs, hdigit⟩ := exists_digits e.natAbs
      rw [hcs, List.cons_append] at hrun
      simp only [if_neg hneg, hcs, List.cons_append, hrun, hvalue]
      split
      · next heq => exact (ne_of_isDigit hdigit (by decide) (List.cons.inj heq).1).elim
      · next heq => exact (ne_of_isDigit hdigit (by decide) (List.cons.inj heq).1).elim
      · rw [show (1 * (e.natAbs : Int)) = e by omega]

/-- A number without its sign is read back. -/
theorem readMagnitude?_append {n : Numeral} (h : n.IsWritten) (hrest : EndsNumber rest) :
    readMagnitude? n.negative (n.magnitudeChars ++ rest) = some (n, rest) := by
  have hexponent : EndsDigits (Numeral.exponentChars n.exponent ++ rest) ∧
      '.' ∉ (Numeral.exponentChars n.exponent ++ rest).head? := by
    cases n.exponent with
    | none => exact ⟨hrest.endsDigits, fun h => (hrest '.' h).2.1 rfl⟩
    | some e => simp [Numeral.exponentChars, EndsDigits, digitValue?]
  have hfraction : EndsDigits (Numeral.fractionChars n.fraction ++
      (Numeral.exponentChars n.exponent ++ rest)) := by
    unfold Numeral.fractionChars
    split
    · exact hexponent.1
    · simp [EndsDigits, digitValue?]
  have hdigit (d : Nat) (hd : d ∈ n.whole ∨ d ∈ n.fraction) : d < 10 :=
    h.digit_lt d (List.mem_append.2 hd)
  rw [Numeral.magnitudeChars, List.append_assoc, List.append_assoc, readMagnitude?,
    readWhole?_append h.whole (fun d hd => hdigit d (.inl hd)) hfraction]
  dsimp only [Option.bind_eq_bind, Option.bind_some]
  rw [readFraction?_append (fun d hd => hdigit d (.inr hd)) hexponent.1 hexponent.2]
  dsimp only [Option.bind_some]
  rw [readExponent?_append n.exponent hrest]
  rfl

/-- A number without its sign starts with a digit. -/
theorem exists_magnitudeChars {n : Numeral} (h : n.IsWritten) :
    ∃ c cs, n.magnitudeChars = c :: cs ∧ c.isDigit = true := by
  obtain ⟨d, ds, hds⟩ := h.whole.exists_cons
  refine ⟨digitChar d, _, by rw [Numeral.magnitudeChars, hds, List.map_cons]; rfl, ?_⟩
  exact isDigit_digitChar (h.digit_lt d (by simp [hds]))

/-- A number is **read back**. -/
theorem readNumeral?_chars {n : Numeral} (h : n.IsWritten) (hrest : EndsNumber rest) :
    readNumeral? (n.chars ++ rest) = some (n, rest) := by
  have hread := readMagnitude?_append h hrest
  rw [Numeral.chars_eq]
  cases hneg : n.negative with
  | true =>
    rw [hneg] at hread
    exact hread
  | false =>
    obtain ⟨c, cs, hcs, hdigit⟩ := exists_magnitudeChars h
    rw [hneg] at hread
    rw [if_neg Bool.false_ne_true, List.nil_append]
    unfold readNumeral?
    split
    · next heq =>
      rw [hcs] at heq
      exact (ne_of_isDigit hdigit (by decide) (List.cons.inj heq).1).elim
    · exact hread

/-- A number starts with a minus sign or a digit. -/
theorem exists_chars {n : Numeral} (h : n.IsWritten) :
    ∃ c cs, n.chars = c :: cs ∧ (c = '-' ∨ c.isDigit = true) := by
  obtain ⟨c, cs, hcs, hdigit⟩ := exists_magnitudeChars h
  rw [Numeral.chars_eq, hcs]
  cases n.negative with
  | true => exact ⟨_, _, rfl, .inl rfl⟩
  | false => exact ⟨_, _, rfl, .inr hdigit⟩

/-- A token that starts with a digit or a minus sign is a number. -/
theorem readToken?_chars {n : Numeral} (h : n.IsWritten) (hrest : EndsNumber rest) :
    readToken? (n.chars ++ rest) = some (.number n, rest) := by
  have hread := readNumeral?_chars h hrest
  obtain ⟨c, cs, hcs, hhead⟩ := exists_chars h
  rw [hcs, List.cons_append] at hread ⊢
  have hne (d : Char) (hd : d ≠ '-' ∧ d.isDigit = false) : c ≠ d := by
    rintro rfl
    rcases hhead with hminus | hdigit
    · exact hd.1 hminus
    · exact ne_of_isDigit hdigit hd.2 rfl
  unfold readToken?
  split
  case h_11 =>
    rw [hread]
    rfl
  all_goals
    next heq => exact (hne _ (by decide) (List.cons.inj heq).1).elim

/-! ## Reading strings -/

/-- Four hexadecimal digits are read back. -/
theorem hexUnit?_hexDigit {n : Nat} (hn : n < 65536) :
    hexUnit? (hexDigit (n / 16 / 16 / 16 % 16)) (hexDigit (n / 16 / 16 % 16))
      (hexDigit (n / 16 % 16)) (hexDigit (n % 16)) = some n := by
  have hvalue (d : Nat) : hexValue? (hexDigit (d % 16)) = some (d % 16) := by
    have hall : ∀ d : Fin 16, hexValue? (hexDigit d) = some d.val := by decide
    exact hall ⟨d % 16, Nat.mod_lt d (by decide)⟩
  rw [hexUnit?, hvalue, hvalue, hvalue, hvalue]
  exact congrArg some (by omega)

/-- A character of a string is read back. -/
theorem readCodePoints?_escape (c : Char) (rest : List Char) :
    readCodePoints? (escape c ++ rest) =
      (readCodePoints? rest).map fun (units, rest) => (c.toNat :: units, rest) := by
  have hbind (unit : Nat) : (do
      let (units, rest) ← readCodePoints? rest
      return (unit :: units, rest)) =
        (readCodePoints? rest).map fun (units, rest) => (unit :: units, rest) := by
    cases readCodePoints? rest <;> rfl
  unfold escape
  split_ifs with hquote hbackslash hnewline hreturn htab hback hfeed hcontrol
  · subst hquote
    exact hbind 34
  · subst hbackslash
    exact hbind 92
  · subst hnewline
    exact hbind 10
  · subst hreturn
    exact hbind 13
  · subst htab
    exact hbind 9
  · rw [hback]
    exact hbind 8
  · rw [hfeed]
    exact hbind 12
  · have hunit := hexUnit?_hexDigit (n := c.toNat) (by omega)
    change (do
      let unit ← hexUnit? (hexDigit (c.toNat / 16 / 16 / 16 % 16))
        (hexDigit (c.toNat / 16 / 16 % 16)) (hexDigit (c.toNat / 16 % 16)) (hexDigit (c.toNat % 16))
      let (units, rest) ← readCodePoints? rest
      return (unit :: units, rest)) = _
    rw [hunit]
    exact hbind c.toNat
  · rw [List.singleton_append, readCodePoints?.eq_def (c :: rest)]
    split
    · next heq => cases heq
    · next heq => exact (hquote (List.cons.inj heq).1).elim
    · next heq => exact (hbackslash (List.cons.inj heq).1).elim
    · next heq => exact (hbackslash (List.cons.inj heq).1).elim
    · next heq =>
      obtain ⟨rfl, rfl⟩ := List.cons.inj heq
      rw [if_neg hcontrol]
      exact hbind c.toNat

/-- The characters of a string are read back. -/
theorem readCodePoints?_flatMap_escape (cs rest : List Char) :
    readCodePoints? (cs.flatMap escape ++ '"' :: rest) = some (cs.map Char.toNat, rest) := by
  induction cs with
  | nil => rfl
  | cons c cs ih =>
    rw [List.flatMap_cons, List.append_assoc, readCodePoints?_escape, ih, Option.map_some,
      List.map_cons]

/-- A character is no half of a surrogate pair. -/
theorem pairSurrogates?_map_toNat (cs : List Char) :
    pairSurrogates? (cs.map Char.toNat) = some cs := by
  induction cs with
  | nil => rfl
  | cons c cs ih =>
    have hvalid : c.toNat < 0xD800 ∨ 0xDFFF < c.toNat := by
      rcases c.valid with h | h
      · exact .inl h
      · exact .inr h.1
    have hhigh : isHighSurrogate c.toNat = false := by
      simp [isHighSurrogate]
      omega
    have hlow : isLowSurrogate c.toNat = false := by
      simp [isLowSurrogate]
      omega
    unfold pairSurrogates?
    rw [List.map_cons]
    simp only [hhigh, hlow, if_neg Bool.false_ne_true, ih, Option.map_some, Char.ofNat_toNat]

/-- A quote opens a string. -/
theorem readToken?_quote (cs : List Char) :
    readToken? ('"' :: cs) = (readString? cs).map fun (text, rest) => (.string text, rest) :=
  rfl

/-- A string is **read back**. -/
theorem readToken?_quoted (text : Option String) (rest : List Char) :
    readToken? (quoted text ++ rest) = some (.string text, rest) := by
  cases text with
  | none =>
    have hread : readString? ('\\' :: 'u' :: 'd' :: '8' :: '0' :: '0' :: '"' :: rest) =
        some (none, rest) := rfl
    rw [quoted, List.cons_append, readToken?_quote]
    exact congrArg (Option.map _) hread
  | some s =>
    have hread : readString? (s.toList.flatMap escape ++ '"' :: rest) = some (some s, rest) := by
      rw [readString?, readCodePoints?_flatMap_escape, Option.map_some]
      dsimp only
      rw [pairSurrogates?_map_toNat, Option.map_some, String.ofList_toList]
    rw [quoted, List.cons_append, readToken?_quote, List.append_assoc, List.singleton_append, hread]
    rfl

/-! ## Rows of tokens -/

/-- A text is read as a row of tokens in as many steps as it has characters, or more. -/
def Lexes (cs : List Char) (ts : List Token) : Prop :=
  ∀ fuel, cs.length ≤ fuel → tokensWithin? fuel cs = some ts

/-- Characters **spell** a row of tokens if they are read as these, whatever comes behind that does
not go on with a number. -/
def Spells (written : List Char) (tokens : List Token) : Prop :=
  ∀ rest ts, EndsNumber rest → Lexes rest ts → Lexes (written ++ rest) (tokens ++ ts)

/-- Nothing is read as no tokens. -/
theorem lexes_nil : Lexes [] [] := by
  intro fuel _
  cases fuel <;> rfl

/-- One token is read before the others. -/
theorem Lexes.token {written : List Char} {t : Token} {ts : List Token}
    (hhead : ∃ c ∈ written.head?, isSpace c = false)
    (hread : readToken? (written ++ rest) = some (t, rest)) (h : Lexes rest ts) :
    Lexes (written ++ rest) (t :: ts) := by
  obtain ⟨c, hc, hspace⟩ := hhead
  obtain ⟨cs, rfl⟩ : ∃ cs, written = c :: cs := List.head?_eq_some_iff.1 hc
  intro fuel hfuel
  rw [List.cons_append] at hread hfuel ⊢
  rw [List.length_cons, List.length_append] at hfuel
  cases fuel with
  | zero => omega
  | succ fuel =>
    rw [tokensWithin?, hspace, if_neg Bool.false_ne_true, hread]
    dsimp only [Option.bind_eq_bind, Option.bind_some]
    rw [h fuel (by omega)]
    rfl

/-- A mark is a token. -/
theorem Lexes.mark {c : Char} {t : Token} {ts : List Token} (hspace : isSpace c = false)
    (hread : readToken? (c :: rest) = some (t, rest)) (h : Lexes rest ts) :
    Lexes (c :: rest) (t :: ts) := by
  have hone : Lexes ([c] ++ rest) (t :: ts) := .token ⟨c, rfl, hspace⟩ hread h
  exact hone

/-- A string is a token. -/
theorem spells_quoted (text : Option String) : Spells (quoted text) [.string text] := by
  intro rest ts _ h
  refine Lexes.token ⟨'"', ?_, by decide⟩ (readToken?_quoted text rest) h
  cases text <;> rfl

/-- A number is a token. -/
theorem Numeral.IsWritten.spells {n : Numeral} (h : n.IsWritten) : Spells n.chars [.number n] := by
  intro rest ts hrest hts
  refine Lexes.token ?_ (readToken?_chars h hrest) hts
  obtain ⟨c, cs, hcs, hhead⟩ := exists_chars h
  refine ⟨c, by rw [hcs]; rfl, ?_⟩
  rcases hhead with rfl | hdigit
  · decide
  · have hne (d : Char) (hd : d.isDigit = false) : (c == d) = false :=
      beq_eq_false_iff_ne.2 (ne_of_isDigit hdigit hd)
    simp [isSpace, hne ' ' (by decide), hne '\n' (by decide), hne '\r' (by decide),
      hne '\t' (by decide)]

/-- Items are read one behind the other. -/
theorem spells_items {items : List Json} (h : ∀ item ∈ items, Spells item.chars item.tokens) :
    Spells (itemsChars items) (itemsTokens items) := by
  induction items with
  | nil => exact fun rest ts _ hts => hts
  | cons item items ih =>
    have hitem := h item List.mem_cons_self
    have hitems := ih fun item' hitem' => h item' (List.mem_cons_of_mem _ hitem')
    cases items with
    | nil => exact hitem
    | cons item' items =>
      intro rest ts hrest hts
      rw [itemsChars, itemsTokens, List.append_assoc, List.append_assoc]
      exact hitem _ _ (endsNumber_cons (by decide))
        (.mark (by decide) rfl (hitems rest ts hrest hts))

/-- A name is read before its value. -/
theorem Spells.member {name : Option String} {written : List Char} {tokens : List Token}
    (h : Spells written tokens) :
    Spells (quoted name ++ ':' :: written) (.string name :: .colon :: tokens) := by
  intro rest ts hrest hts
  rw [List.append_assoc]
  exact spells_quoted name _ _ (endsNumber_cons (by decide))
    (.mark (by decide) rfl (h rest ts hrest hts))

/-- Members are read one behind the other. -/
theorem spells_members {members : List (Option String × Json)}
    (h : ∀ member ∈ members, Spells member.2.chars member.2.tokens) :
    Spells (membersChars members) (membersTokens members) := by
  induction members with
  | nil => exact fun rest ts _ hts => hts
  | cons member members ih =>
    have hmember := h member List.mem_cons_self
    have hmembers := ih fun member' hmember' => h member' (List.mem_cons_of_mem _ hmember')
    cases members with
    | nil => exact hmember.member
    | cons member' members =>
      rw [membersChars, membersTokens]
      refine Spells.member fun rest ts hrest hts => ?_
      rw [List.append_assoc, List.append_assoc]
      exact hmember _ _ (endsNumber_cons (by decide))
        (.mark (by decide) rfl (hmembers rest ts hrest hts))

/-- Brackets of either kind are read around what they hold. -/
theorem Spells.bracket {written : List Char} {tokens : List Token} {first last : Char}
    {opening closing : Token} (h : Spells written tokens) (hfirst : isSpace first = false)
    (hopening : ∀ rest, readToken? (first :: rest) = some (opening, rest))
    (hlast : last ∈ closingMarks)
    (hclosing : ∀ rest, readToken? (last :: rest) = some (closing, rest)) :
    Spells (first :: (written ++ [last])) (opening :: (tokens ++ [closing])) := by
  intro rest ts hrest hts
  rw [List.cons_append, List.cons_append, List.append_assoc, List.append_assoc]
  exact .mark hfirst (hopening _)
    (h _ _ (endsNumber_cons hlast) (.mark (of_mem_closingMarks hlast).2 (hclosing _) hts))

/-- **A value is read as its tokens.** -/
theorem IsWritten.spells {json : Json} (h : json.IsWritten) : Spells json.chars json.tokens := by
  induction h with
  | null => exact fun rest ts _ hts => .token ⟨'n', rfl, by decide⟩ rfl hts
  | bool b =>
    cases b with
    | true => exact fun rest ts _ hts => .token ⟨'t', rfl, by decide⟩ rfl hts
    | false => exact fun rest ts _ hts => .token ⟨'f', rfl, by decide⟩ rfl hts
  | number h => exact h.spells
  | string text => exact spells_quoted text
  | array _ ih =>
    exact (spells_items ih).bracket (by decide) (fun _ => rfl) (by decide) fun _ => rfl
  | object _ ih =>
    exact (spells_members ih).bracket (by decide) (fun _ => rfl) (by decide) fun _ => rfl

/-! ## Values -/

/-- An array that is not empty is read behind its bracket. -/
theorem value?_openArray {fuel : Nat} {ts rest : List Token} {items : List Json}
    (h : items? fuel ts = some (items, rest)) :
    value? (fuel + 1) (.openArray :: ts) = some (array items, rest) := by
  have hne (ts' : List Token) : ts ≠ .closeArray :: ts' := by
    rintro rfl
    cases fuel with
    | zero => cases h
    | succ fuel =>
      rw [items?] at h
      cases fuel <;> cases h
  rw [value?, h]
  · rfl
  · exact fun ts' hts' => hne ts' hts'

/-- An object that is not empty is read behind its bracket. -/
theorem value?_openObject {fuel : Nat} {ts rest : List Token}
    {members : List (Option String × Json)} (h : members? fuel ts = some (members, rest)) :
    value? (fuel + 1) (.openObject :: ts) = some (object members, rest) := by
  have hne (ts' : List Token) : ts ≠ .closeObject :: ts' := by
    rintro rfl
    cases fuel <;> cases h
  rw [value?, h]
  · rfl
  · exact fun ts' hts' => hne ts' hts'

/-- The tokens of a value **hold** it: they are read as this value, whatever comes behind. -/
def TokensHold (json : Json) : Prop :=
  ∀ fuel rest, 2 * json.tokens.length ≤ fuel → value? fuel (json.tokens ++ rest) = some (json, rest)

/-- Items are read up to the end of the array. -/
theorem items?_tokens {items : List Json} (hne : items ≠ [])
    (h : ∀ item ∈ items, item.TokensHold) {fuel : Nat} (rest : List Token)
    (hfuel : 2 * (itemsTokens items).length < fuel) :
    items? fuel (itemsTokens items ++ .closeArray :: rest) = some (items, rest) := by
  induction items generalizing fuel with
  | nil => exact (hne rfl).elim
  | cons item items ih =>
    obtain ⟨fuel, rfl⟩ := Nat.exists_eq_add_of_lt (Nat.zero_lt_of_lt hfuel)
    have hitem := h item List.mem_cons_self
    cases items with
    | nil =>
      rw [itemsTokens] at hfuel ⊢
      rw [items?, hitem _ _ (by omega)]
    | cons item' items =>
      have hitems {fuel : Nat} := @ih (List.cons_ne_nil item' items)
        (fun item hitem => h item (List.mem_cons_of_mem _ hitem)) fuel
      rw [itemsTokens, List.length_append, List.length_cons] at hfuel
      rw [itemsTokens, items?, List.append_assoc, hitem _ _ (by omega), List.cons_append]
      dsimp only
      rw [hitems (by omega)]
      rfl

/-- Members are read up to the end of the object. -/
theorem members?_tokens {members : List (Option String × Json)} (hne : members ≠ [])
    (h : ∀ member ∈ members, member.2.TokensHold) {fuel : Nat} (rest : List Token)
    (hfuel : 2 * (membersTokens members).length < fuel) :
    members? fuel (membersTokens members ++ .closeObject :: rest) = some (members, rest) := by
  induction members generalizing fuel with
  | nil => exact (hne rfl).elim
  | cons member members ih =>
    obtain ⟨fuel, rfl⟩ := Nat.exists_eq_add_of_lt (Nat.zero_lt_of_lt hfuel)
    have hmember := h member List.mem_cons_self
    cases members with
    | nil =>
      rw [membersTokens, List.length_cons, List.length_cons] at hfuel
      rw [membersTokens, List.cons_append, List.cons_append, members?, hmember _ _ (by omega)]
    | cons member' members =>
      have hmembers {fuel : Nat} := @ih (List.cons_ne_nil member' members)
        (fun member hmember => h member (List.mem_cons_of_mem _ hmember)) fuel
      rw [membersTokens, List.length_cons, List.length_cons, List.length_append,
        List.length_cons] at hfuel
      rw [membersTokens, List.cons_append, List.cons_append, members?, List.append_assoc,
        hmember _ _ (by omega), List.cons_append]
      dsimp only
      rw [hmembers (by omega)]
      rfl

/-- **The tokens of a value hold it.** -/
theorem IsWritten.tokensHold {json : Json} (h : json.IsWritten) : json.TokensHold := by
  intro fuel
  induction h generalizing fuel with
  | null => exact fun rest _ => by cases fuel <;> rfl
  | bool b => exact fun rest _ => by cases fuel <;> rfl
  | number h => exact fun rest _ => by cases fuel <;> rfl
  | string text => exact fun rest _ => by cases fuel <;> rfl
  | @array items h ih =>
    intro rest hfuel
    cases items with
    | nil => cases fuel <;> rfl
    | cons item items =>
      rw [tokens, List.length_cons, List.length_append] at hfuel
      obtain ⟨fuel, rfl⟩ := Nat.exists_eq_add_of_lt (show 0 < fuel by omega)
      rw [tokens, List.cons_append, List.append_assoc]
      exact value?_openArray
        (items?_tokens (List.cons_ne_nil _ _) ih rest (by omega))
  | @object members h ih =>
    intro rest hfuel
    cases members with
    | nil => cases fuel <;> rfl
    | cons member members =>
      rw [tokens, List.length_cons, List.length_append] at hfuel
      obtain ⟨fuel, rfl⟩ := Nat.exists_eq_add_of_lt (show 0 < fuel by omega)
      rw [tokens, List.cons_append, List.append_assoc]
      exact value?_openObject
        (members?_tokens (List.cons_ne_nil _ _) ih rest (by omega))

/-- A value that has a written form is **read back** from its text.

**Proof sketch.** The characters are read as the row of tokens of the value, and nothing is left
behind them. The row is read as the value, and nothing is left behind it. -/
theorem IsWritten.parse?_text {json : Json} (h : json.IsWritten) :
    parse? json.text = some json := by
  have htokens : tokens? json.text.toList = some json.tokens := by
    have hread := h.spells [] [] endsNumber_nil lexes_nil
    rw [List.append_nil, List.append_nil] at hread
    rw [text, String.toList_ofList]
    exact hread _ (Nat.le_refl _)
  have hvalue := h.tokensHold _ [] (Nat.le_refl _)
  rw [List.append_nil] at hvalue
  rw [parse?, htokens]
  dsimp only [Option.bind_eq_bind, Option.bind_some]
  rw [hvalue]

end OrderDesk.Json
