import Mathlib.Data.Nat.Digits.Defs
import OrderDesk.Proofs.Components
import OrderDesk.Proofs.Fields

/-!
# Which texts are order IDs

A text is an order ID by its underscores alone: it has at least two of them, and `ord` stands before
the first one. What is read of it stands at fixed places as well, before, between and behind its
underscores, and nothing is asked of these parts. They may be empty, and the seconds may carry a
sign, leading zeros, or be no number at all.

## Main definitions

* `OrderDesk.Text.IsInteger` — a text is a numeral of an integer.
* `OrderDesk.Text.upTo`, `OrderDesk.Text.beyond` — a text on both sides of its first separator.
* `OrderDesk.OrderId.IsWellFormed` — the texts that are accepted.

## Main results

* `OrderDesk.Text.readInt64?_eq_some_iff` — which texts are read as an integer.
* `OrderDesk.Text.exists_segments` — the segments of a text, by their places.
* `OrderDesk.OrderId.parse_by_position` — what is read of a text.
-/

set_option autoImplicit false

namespace OrderDesk

namespace Text

/-! ## Numerals -/

/-- A nonempty row of ASCII digits. -/
structure IsDigits (cs : List Char) : Prop where
  ne_nil : cs ≠ []
  digits : ∀ c ∈ cs, c.isDigit = true

/-- The number that a row of digits stands for in the decimal system. -/
def decimalValue (cs : List Char) : Nat :=
  Nat.ofDigits 10 (cs.map fun c => c.toNat - '0'.toNat).reverse

/-- A text is a **numeral** of an integer: digits, with one sign in front of them or none. -/
inductive IsInteger : List Char → Int → Prop
  | unsigned {ds : List Char} (h : IsDigits ds) : IsInteger ds (decimalValue ds)
  | plus {ds : List Char} (h : IsDigits ds) : IsInteger ('+' :: ds) (decimalValue ds)
  | minus {ds : List Char} (h : IsDigits ds) : IsInteger ('-' :: ds) (-decimalValue ds)

/-- The first digit counts for as many places as there are digits behind it. -/
theorem decimalValue_cons (c : Char) (cs : List Char) :
    decimalValue (c :: cs) = (c.toNat - '0'.toNat) * 10 ^ cs.length + decimalValue cs := by
  rw [decimalValue, List.map_cons, List.reverse_cons, Nat.ofDigits_append, Nat.ofDigits_singleton,
    List.length_reverse, List.length_map, Nat.mul_comm, Nat.add_comm]
  rfl

/-- Digits behind a number of some value continue it. -/
theorem continueDigits?_eq_some_iff {acc n : Nat} {cs : List Char} :
    continueDigits? acc cs = some n ↔
      (∀ c ∈ cs, c.isDigit = true) ∧ n = acc * 10 ^ cs.length + decimalValue cs := by
  induction cs generalizing acc with
  | nil =>
    have hnil : acc * 10 ^ ([] : List Char).length + decimalValue [] = acc := by
      simp [decimalValue]
    rw [hnil, continueDigits?, Option.some.injEq, eq_comm]
    exact (and_iff_right (List.forall_mem_nil _)).symm
  | cons c cs ih =>
    rw [continueDigits?, digitValue?, List.forall_mem_cons, isDigit_iff, decimalValue_cons,
      List.length_cons, Nat.pow_succ']
    by_cases hc : 48 ≤ c.toNat ∧ c.toNat ≤ 57
    · have hzero : '0'.toNat = 48 := rfl
      rw [if_pos hc, hzero]
      simp only [ih, hc, true_and]
      refine and_congr_right' (Eq.congr_right ?_)
      ring
    · simp [hc]

/-- A text is read as a number exactly if it is a row of digits, and then as the number that it
stands for. -/
theorem ofDigits?_eq_some_iff {cs : List Char} {n : Nat} :
    ofDigits? cs = some n ↔ IsDigits cs ∧ n = decimalValue cs := by
  have hdigits : IsDigits cs ↔ cs ≠ [] ∧ ∀ c ∈ cs, c.isDigit = true :=
    ⟨fun h => ⟨h.ne_nil, h.digits⟩, fun h => ⟨h.1, h.2⟩⟩
  unfold ofDigits?
  cases cs with
  | nil => simp [hdigits]
  | cons c cs =>
    rw [if_neg (by simp), continueDigits?_eq_some_iff, hdigits, Nat.zero_mul, Nat.zero_add]
    simp

/-- A text is read as an integer of 64 bits exactly if it is a **numeral** of this integer, whatever
its sign and its leading zeros are. -/
theorem readInt64?_eq_some_iff {cs : List Char} {n : Int} :
    readInt64? cs = some n ↔ IsInteger cs n ∧ -(2 ^ 63) ≤ n ∧ n < 2 ^ 63 := by
  have hfilter (value? : Option Int) :
      (value?.filter fun n => -(2 ^ 63 : Int) ≤ n ∧ n < 2 ^ 63) = some n ↔
        value? = some n ∧ -(2 ^ 63) ≤ n ∧ n < 2 ^ 63 := by
    rw [Option.filter_eq_some_iff, decide_eq_true_eq]
  constructor
  · intro h
    unfold readInt64? at h
    obtain ⟨hvalue, hrange⟩ := (hfilter _).1 h
    refine ⟨?_, hrange⟩
    split at hvalue
    · -- The coercion to the integers has made a bind of the map.
      obtain ⟨_, hbind, rfl⟩ := Option.map_eq_some_iff.1 hvalue
      obtain ⟨m, hm, hcast⟩ := Option.bind_eq_some_iff.1 hbind
      obtain rfl := Option.some.inj hcast
      obtain ⟨hdigits, rfl⟩ := ofDigits?_eq_some_iff.1 hm
      exact .minus hdigits
    · obtain ⟨m, hm, rfl⟩ := Option.map_eq_some_iff.1 hvalue
      obtain ⟨hdigits, rfl⟩ := ofDigits?_eq_some_iff.1 hm
      exact .plus hdigits
    · obtain ⟨m, hm, rfl⟩ := Option.map_eq_some_iff.1 hvalue
      obtain ⟨hdigits, rfl⟩ := ofDigits?_eq_some_iff.1 hm
      exact .unsigned hdigits
  · rintro ⟨hnumeral, hrange⟩
    cases hnumeral with
    | unsigned h =>
      have hhead (c : Char) (hc : c ∈ cs.head?) : c.isDigit = true :=
        h.digits c (List.mem_of_mem_head? hc)
      rw [readInt64?_of_unsigned (fun hc => absurd (hhead _ hc) (by decide))
        (fun hc => absurd (hhead _ hc) (by decide)), hfilter, ofDigits?_eq_some_iff.2 ⟨h, rfl⟩]
      exact ⟨rfl, hrange⟩
    | plus h =>
      rw [readInt64?, hfilter, ofDigits?_eq_some_iff.2 ⟨h, rfl⟩]
      exact ⟨rfl, hrange⟩
    | minus h =>
      rw [readInt64?, hfilter, ofDigits?_eq_some_iff.2 ⟨h, rfl⟩]
      exact ⟨rfl, hrange⟩

/-! ## Segments by their places -/

/-- The text **before** its first separator, or all of it if there is none. -/
def upTo (separator : Char) (cs : List Char) : List Char :=
  cs.takeWhile (· ≠ separator)

/-- The text **behind** its first separator, or nothing if there is none. -/
def beyond (separator : Char) (cs : List Char) : List Char :=
  (cs.dropWhile (· ≠ separator)).drop 1

variable {separator : Char} {cs : List Char}

/-- There is no separator before the first one. -/
theorem notMem_upTo : separator ∉ upTo separator cs := by
  intro h
  simpa using List.mem_takeWhile_imp h

/-- A text is put together again at its first separator. -/
theorem upTo_append_beyond (h : separator ∈ cs) :
    upTo separator cs ++ separator :: beyond separator cs = cs := by
  have hsplit := List.takeWhile_append_dropWhile (p := (· ≠ separator)) (l := cs)
  unfold upTo beyond
  cases hdrop : cs.dropWhile (· ≠ separator) with
  | nil =>
    rw [hdrop, List.append_nil] at hsplit
    exact absurd (hsplit ▸ h) notMem_upTo
  | cons c rest =>
    have hc : c = separator := by
      have hnot := List.head?_dropWhile_not (· ≠ separator) cs
      rw [hdrop] at hnot
      simpa using hnot
    rw [hdrop, hc] at hsplit
    exact hsplit

/-- The first separator is the only one that is not behind it. -/
theorem count_beyond (h : separator ∈ cs) :
    cs.count separator = (beyond separator cs).count separator + 1 := by
  conv_lhs => rw [← upTo_append_beyond h]
  rw [List.count_append, List.count_eq_zero.2 notMem_upTo, List.count_cons_self, Nat.zero_add]

/-- The first segment of a text stands before its first separator. -/
theorem segments_eq_cons (h : separator ∈ cs) :
    segments separator cs = upTo separator cs :: segments separator (beyond separator cs) := by
  conv_lhs => rw [← upTo_append_beyond h]
  rw [segments_append_cons, segments_eq_singleton notMem_upTo, List.singleton_append]

/-- A text with two separators has its first segment before the first one, its second segment
between them, and its last segment **behind the last one**. -/
theorem exists_segments (h : 2 ≤ cs.count separator) :
    ∃ third rest, segments separator cs =
        upTo separator cs :: upTo separator (beyond separator cs) :: third :: rest ∧
      (third :: rest).getLast? = some (cs.rtakeWhile (· ≠ separator)) ∧
      rest.length + 2 = cs.count separator := by
  have hfirst : separator ∈ cs := List.count_pos_iff.1 (by omega)
  have hcount := count_beyond hfirst
  have hsecond : separator ∈ beyond separator cs := List.count_pos_iff.1 (by omega)
  obtain ⟨third, rest, hrest⟩ := List.exists_cons_of_ne_nil
    (segments_ne_nil separator (beyond separator (beyond separator cs)))
  have hsegments : segments separator cs =
      upTo separator cs :: upTo separator (beyond separator cs) :: third :: rest := by
    rw [segments_eq_cons hfirst, segments_eq_cons hsecond, hrest]
  refine ⟨third, rest, hsegments, ?_, ?_⟩
  · rw [← getLast?_segments, hsegments, List.getLast?_cons_cons, List.getLast?_cons_cons]
  · have hlength := length_segments separator cs
    rw [hsegments] at hlength
    simpa using hlength

end Text

/-! ## Order IDs -/

namespace OrderId

open Text

/-- The text before the first underscore. -/
def firstPiece (s : String) : String :=
  String.ofList (upTo '_' s.toList)

/-- The text between the first two underscores. -/
def secondPiece (s : String) : List Char :=
  upTo '_' (beyond '_' s.toList)

/-- A text is **well formed** as an order ID: it has two underscores, and `ord` before them. -/
structure IsWellFormed (s : String) : Prop where
  underscores : 2 ≤ s.toList.count '_'
  start : firstPiece s = "ord"

variable {s : String}

/-- A text with fewer than two underscores has too few segments. -/
theorem parse_of_count_lt (h : s.toList.count '_' < 2) : parse s = .error .tooFewSegments := by
  have hlength := length_segments '_' s.toList
  unfold parse
  split
  · next hsegments =>
    rw [hsegments] at hlength
    simp only [List.length_cons] at hlength
    omega
  · rfl

/-- A text with two underscores is told by what stands before them if this is not `ord`. -/
theorem parse_of_firstPiece_ne (h : 2 ≤ s.toList.count '_') (hstart : firstPiece s ≠ "ord") :
    parse s = .error (.invalidPrefix (firstPiece s)) := by
  obtain ⟨third, rest, hsegments, -, -⟩ := exists_segments h
  have hne : upTo '_' s.toList ≠ ['o', 'r', 'd'] := fun heq => hstart (by rw [firstPiece, heq])
  simp only [parse, hsegments, if_neg hne, firstPiece]

/-- What is read of a text that is well formed. -/
theorem parse_of_isWellFormed (h : IsWellFormed s) :
    parse s = .ok {
      start := "ord"
      uniqueId := lastPiece s
      username := if s.toList.count '_' < 3 then none else some (lastPiece s)
      unixTimestamp := readInt64? (secondPiece s) } := by
  obtain ⟨third, rest, hsegments, hlast, hlength⟩ := exists_segments h.underscores
  have hstart : upTo '_' s.toList = ['o', 'r', 'd'] := by
    have := congrArg String.toList h.start
    rwa [firstPiece, String.toList_ofList] at this
  have hrest : rest.isEmpty = true ↔ s.toList.count '_' < 3 := by
    rw [List.isEmpty_iff, ← List.length_eq_zero_iff]
    omega
  rw [hstart] at hsegments
  rw [parse_of_segments hsegments hlast]
  simp only [hrest, lastPiece, secondPiece]

/-- A text is an order ID exactly if it is well formed. -/
theorem isValid_iff : isValid s = true ↔ IsWellFormed s := by
  unfold isValid
  rcases Nat.lt_or_ge (s.toList.count '_') 2 with hfew | htwo
  · rw [parse_of_count_lt hfew]
    exact ⟨nofun, fun h => absurd h.underscores (by omega)⟩
  by_cases hstart : firstPiece s = "ord"
  · rw [parse_of_isWellFormed ⟨htwo, hstart⟩]
    exact ⟨fun _ => ⟨htwo, hstart⟩, fun _ => rfl⟩
  · rw [parse_of_firstPiece_ne htwo hstart]
    exact ⟨nofun, fun h => absurd h.start hstart⟩

/-- A text is described as valid exactly if it is an order ID. -/
theorem valid_describe (s : String) : (describe s).valid = isValid s := by
  unfold describe isValid
  cases parse s <;> rfl

/-- **Order IDs are read by position.** A text has too few segments exactly if it has fewer than two
underscores; else it has another start exactly if something but `ord` stands before the first one;
and else it is read. Its unique part is what stands behind the last underscore, which is taken for
the user as well if there are at least three of them. Its seconds are the integer of 64 bits of
which a numeral stands between the first two underscores, if there is such a one. All that look at
order IDs accept the same texts, and a text that is accepted is kept as it is. -/
theorem parse_by_position (s : String) :
    (parse s = .error .tooFewSegments ↔ s.toList.count '_' < 2) ∧
    (∀ found, parse s = .error (.invalidPrefix found) ↔
      2 ≤ s.toList.count '_' ∧ found = firstPiece s ∧ found ≠ "ord") ∧
    (IsWellFormed s → ∃ components, parse s = .ok components ∧
      components.start = "ord" ∧ components.uniqueId = lastPiece s ∧
      (components.username = some components.uniqueId ↔ 3 ≤ s.toList.count '_') ∧
      (components.username = none ↔ s.toList.count '_' < 3) ∧
      ∀ n, components.unixTimestamp = some n ↔
        IsInteger (secondPiece s) n ∧ -(2 ^ 63) ≤ n ∧ n < 2 ^ 63) ∧
    (isValid s = true ↔ IsWellFormed s) ∧
    ((describe s).valid = true ↔ IsWellFormed s) ∧
    ((∃ key, Field.orderId s = .ok key) ↔ IsWellFormed s) ∧
    (∀ key, Field.orderId s = .ok key → key.text = s) := by
  refine ⟨?_, ?_, ?_, isValid_iff, by rw [valid_describe, isValid_iff], ?_, ?_⟩
  · refine ⟨fun h => ?_, parse_of_count_lt⟩
    by_contra htwo
    by_cases hstart : firstPiece s = "ord"
    · cases h.symm.trans (parse_of_isWellFormed ⟨by omega, hstart⟩)
    · cases h.symm.trans (parse_of_firstPiece_ne (by omega) hstart)
  · intro found
    constructor
    · intro h
      have htwo : 2 ≤ s.toList.count '_' := by
        by_contra hfew
        cases h.symm.trans (parse_of_count_lt (by omega))
      have hstart : firstPiece s ≠ "ord" := by
        intro hstart
        cases h.symm.trans (parse_of_isWellFormed ⟨htwo, hstart⟩)
      obtain rfl : found = firstPiece s := by
        have := h.symm.trans (parse_of_firstPiece_ne htwo hstart)
        simpa using this
      exact ⟨htwo, rfl, hstart⟩
    · rintro ⟨htwo, rfl, hstart⟩
      exact parse_of_firstPiece_ne htwo hstart
  · intro h
    refine ⟨_, parse_of_isWellFormed h, rfl, rfl, ?_, ?_, fun n => ?_⟩
    · simp
    · simp
    · exact readInt64?_eq_some_iff
  · simp only [Field.orderId_eq_ok_iff, isValid_iff, exists_and_left, exists_eq, and_true]
  · intro key hkey
    rw [(Field.orderId_eq_ok_iff.1 hkey).2]

/-- Segments may be empty, and the seconds may have a sign and zeros in front: here the text behind
the last underscore, which is the user, is empty, and the seconds are -7. -/
theorem parse_by_position_of_sign :
    let s := "ord_-007___"
    IsWellFormed s ∧ lastPiece s = "" ∧
      ∃ components, parse s = .ok components ∧ components.username = some "" ∧
        components.unixTimestamp = some (-7) := by
  intro s
  have hcount : s.toList.count '_' = 4 := by decide +kernel
  have hwell : IsWellFormed s := ⟨by omega, by decide +kernel⟩
  have hlast : lastPiece s = "" := by decide +kernel
  obtain ⟨components, hparse, -, hunique, huser, -, hseconds⟩ :=
    (parse_by_position s).2.2.1 hwell
  refine ⟨hwell, hlast, components, hparse, ?_, (hseconds (-7)).2 ⟨?_, by decide⟩⟩
  · rw [huser.2 (by omega), hunique, hlast]
  · have hsecond : secondPiece s = ['-', '0', '0', '7'] := by decide +kernel
    rw [hsecond]
    exact .minus ⟨by decide, List.all_eq_true.1 (by decide)⟩

end OrderId

end OrderDesk
