import Mathlib.Data.List.Induction
import Mathlib.Data.List.Lex
import OrderDesk.Text.Numeral

/-!
# Numerals

A numeral is read back as the number that it has been written for, so that different numbers have
different numerals. Texts are compared character by character. Numerals of one width, filled up with
zeros, are so ordered like the numbers that they stand for, and a row of such fields is ordered by
its first field that differs.

## Main results

* `OrderDesk.Text.isDigit_of_mem_zeroPadded` — numerals are written in digits.
* `OrderDesk.Text.append_lt_append_iff` — texts behind texts of one length.
* `OrderDesk.Text.append_cons_eq_iff` — texts around a separator.
* `OrderDesk.Text.ofDigits?_zeroPadded`, `OrderDesk.Text.readInt64?_signedDigits` — numerals are
  read back.
* `OrderDesk.Text.eq_zeroPadded_of_ofDigits?` — what is read as a number is its numeral.
* `OrderDesk.Text.zeroPadded_inj`, `OrderDesk.Text.zeroPadded_lt_iff` — numerals of one width.
* `OrderDesk.Text.field_eq_iff`, `OrderDesk.Text.field_lt_iff` — fields of one width.
-/

set_option autoImplicit false

namespace OrderDesk.Text

/-! ## Texts behind one another -/

/-- Behind texts of one length, what follows is compared only if these are the same. -/
theorem append_lt_append_iff {a b rest rest' : List Char} (h : a.length = b.length) :
    a ++ rest < b ++ rest' ↔ a < b ∨ a = b ∧ rest < rest' := by
  induction a generalizing b with
  | nil =>
    obtain rfl := List.eq_nil_of_length_eq_zero h.symm
    simp
  | cons c a ih =>
    cases b with
    | nil => cases h
    | cons d b =>
      rw [List.cons_append, List.cons_append, List.cons_lt_cons_iff, List.cons_lt_cons_iff,
        ih (Nat.succ.inj h), List.cons.injEq]
      tauto

/-- Texts are the same up to a separator that neither of them has before, exactly if they are the
same before it and behind it. -/
theorem append_cons_eq_iff {separator : Char} {a b rest rest' : List Char} (ha : separator ∉ a)
    (hb : separator ∉ b) :
    a ++ separator :: rest = b ++ separator :: rest' ↔ a = b ∧ rest = rest' := by
  induction a generalizing b with
  | nil =>
    cases b with
    | nil => simp
    | cons d b =>
      have hne : separator ≠ d := fun h => hb (h ▸ List.mem_cons_self)
      simp [hne]
  | cons c a ih =>
    have hne : c ≠ separator := fun h => ha (h ▸ List.mem_cons_self)
    cases b with
    | nil => simp [hne]
    | cons d b =>
      have htail := ih (fun h => ha (List.mem_cons_of_mem c h))
        (fun h => hb (List.mem_cons_of_mem d h))
      rw [List.cons_append, List.cons_append, List.cons.injEq, List.cons.injEq, htail, and_assoc]

/-! ## Writing -/

/-- The character of a value below ten is a digit. -/
theorem isDigit_digitChar {n : Nat} (hn : n < 10) : (digitChar n).isDigit = true := by
  have hall : ∀ n : Fin 10, (digitChar n).isDigit = true := by decide
  exact hall ⟨n, hn⟩

/-- A number is written in digits. -/
theorem isDigit_of_mem_digits {n : Nat} {c : Char} (h : c ∈ digits n) : c.isDigit = true := by
  induction n using digits.induct with
  | case1 n hn =>
    rw [digits, if_pos hn] at h
    rw [List.mem_singleton.1 h]
    exact isDigit_digitChar hn
  | case2 n hn ih =>
    rw [digits, if_neg hn] at h
    rcases List.mem_append.1 h with hrest | hlast
    · exact ih hrest
    · rw [List.mem_singleton.1 hlast]
      exact isDigit_digitChar (Nat.mod_lt n (by decide))

/-- A number is written in digits behind zeros as well. -/
theorem isDigit_of_mem_zeroPadded {width n : Nat} {c : Char} (h : c ∈ zeroPadded width n) :
    c.isDigit = true := by
  rcases List.mem_append.1 h with hzero | hdigit
  · rw [List.eq_of_mem_replicate hzero]
    rfl
  · exact isDigit_of_mem_digits hdigit

/-- A character that is no digit is in no numeral. -/
theorem notMem_zeroPadded {c : Char} (hc : c.isDigit = false) (width n : Nat) :
    c ∉ zeroPadded width n := by
  intro h
  rw [isDigit_of_mem_zeroPadded h] at hc
  cases hc

/-- Without a width there are no zeros. -/
theorem zeroPadded_zero (n : Nat) : zeroPadded 0 n = digits n := by
  simp [zeroPadded]

/-- A character that is neither a digit nor a minus sign is in no integer. -/
theorem notMem_signedDigits {c : Char} (hc : c.isDigit = false) (hminus : c ≠ '-') (n : Int) :
    c ∉ signedDigits n := by
  have hdigits := notMem_zeroPadded hc 0 n.natAbs
  rw [zeroPadded_zero] at hdigits
  unfold signedDigits
  split
  · simp [hminus, hdigits]
  · exact hdigits

/-- One more place is one more digit at the end. -/
theorem zeroPadded_succ {width : Nat} (n : Nat) (hwidth : 0 < width) :
    zeroPadded (width + 1) n = zeroPadded width (n / 10) ++ [digitChar (n % 10)] := by
  unfold zeroPadded
  by_cases hn : n < 10
  · have hrest : digits (n / 10) = [digitChar 0] := by
      rw [digits, if_pos (by omega), Nat.div_eq_of_lt hn]
    rw [hrest, digits, if_pos hn, Nat.mod_eq_of_lt hn]
    obtain ⟨k, rfl⟩ := Nat.exists_eq_add_of_lt hwidth
    simp [List.replicate_succ', digitChar]
  · rw [digits, if_neg hn, List.length_append, List.length_singleton, Nat.add_sub_add_right,
      List.append_assoc]

/-- One place is one digit. -/
theorem zeroPadded_one {n : Nat} (hn : n < 10) : zeroPadded 1 n = [digitChar n] := by
  simp [zeroPadded, digits, hn]

/-- What is left of a number of one more place. -/
theorem div_ten_lt {width n : Nat} (hn : n < 10 ^ (width + 1)) : n / 10 < 10 ^ width :=
  Nat.div_lt_of_lt_mul (by rwa [Nat.pow_succ'] at hn)

/-- A number that needs no more places has a numeral of the width. -/
theorem length_zeroPadded {width n : Nat} (hwidth : 0 < width) (hn : n < 10 ^ width) :
    (zeroPadded width n).length = width := by
  induction width, hwidth using Nat.le_induction generalizing n with
  | base => rw [zeroPadded_one hn, List.length_singleton]
  | succ width hwidth ih =>
    rw [zeroPadded_succ n hwidth, List.length_append, ih (div_ten_lt hn), List.length_singleton]

/-- Numerals that need no more places have the same length. -/
theorem length_zeroPadded_eq {width m n : Nat} (hwidth : 0 < width) (hm : m < 10 ^ width)
    (hn : n < 10 ^ width) : (zeroPadded width m).length = (zeroPadded width n).length :=
  (length_zeroPadded hwidth hm).trans (length_zeroPadded hwidth hn).symm

/-! ## Reading -/

/-- A character that has a value is the digit of this value. -/
theorem digitValue?_eq_some_iff {c : Char} {d : Nat} :
    digitValue? c = some d ↔ d < 10 ∧ c = digitChar d := by
  unfold digitValue?
  constructor
  · intro h
    split at h
    · next hc =>
      obtain rfl := Option.some.inj h
      refine ⟨by omega, ?_⟩
      rw [digitChar, Nat.add_sub_cancel' hc.1, Char.ofNat_toNat]
    · cases h
  · rintro ⟨hd, rfl⟩
    have hall : ∀ d : Fin 10, 48 ≤ (digitChar d).toNat ∧ (digitChar d).toNat ≤ 57 ∧
        (digitChar d).toNat - 48 = d := by decide
    obtain ⟨hlow, hhigh, hvalue⟩ := hall ⟨d, hd⟩
    rw [if_pos ⟨hlow, hhigh⟩, hvalue]

/-- Digits are read from left to right. -/
theorem continueDigits?_append (acc : Nat) (cs ds : List Char) :
    continueDigits? acc (cs ++ ds) =
      (continueDigits? acc cs).bind fun value => continueDigits? value ds := by
  induction cs generalizing acc with
  | nil => rfl
  | cons c cs ih =>
    rw [List.cons_append, continueDigits?, continueDigits?]
    cases digitValue? c with
    | none => rfl
    | some d => exact ih _

/-- One more digit at the end. -/
theorem continueDigits?_singleton (acc : Nat) (c : Char) :
    continueDigits? acc [c] = (digitValue? c).map (10 * acc + ·) := by
  rw [continueDigits?]
  cases digitValue? c <;> rfl

/-- The digits of a number are read as this number. -/
theorem continueDigits?_digits (n : Nat) : continueDigits? 0 (digits n) = some n := by
  have hlast (acc d : Nat) (hd : d < 10) :
      continueDigits? acc [digitChar d] = some (10 * acc + d) := by
    rw [continueDigits?_singleton, digitValue?_eq_some_iff.2 ⟨hd, rfl⟩, Option.map_some]
  induction n using digits.induct with
  | case1 n hn => rw [digits, if_pos hn, hlast 0 n hn, Nat.mul_zero, Nat.zero_add]
  | case2 n hn ih =>
    rw [digits, if_neg hn, continueDigits?_append, ih, Option.bind_some,
      hlast _ _ (Nat.mod_lt n (by decide)), Nat.div_add_mod]

/-- A number has a digit. -/
theorem digits_ne_nil (n : Nat) : digits n ≠ [] := by
  unfold digits
  split <;> simp

/-- A numeral starts with a digit. -/
theorem exists_zeroPadded (width n : Nat) :
    ∃ c cs, zeroPadded width n = c :: cs ∧ c.isDigit = true := by
  have hne : zeroPadded width n ≠ [] := by simp [zeroPadded, digits_ne_nil]
  obtain ⟨c, cs, hcs⟩ := List.exists_cons_of_ne_nil hne
  exact ⟨c, cs, hcs, isDigit_of_mem_zeroPadded (hcs ▸ List.mem_cons_self)⟩

/-- A number starts with a digit. -/
theorem exists_digits (n : Nat) : ∃ c cs, digits n = c :: cs ∧ c.isDigit = true := by
  rw [← zeroPadded_zero]
  exact exists_zeroPadded 0 n

/-- A digit is no sign, and no other character that is not a digit. -/
theorem ne_of_isDigit {c d : Char} (hc : c.isDigit = true) (hd : d.isDigit = false) : c ≠ d := by
  rintro rfl
  rw [hc] at hd
  cases hd

/-- Zeros behind digits are powers of ten. -/
theorem continueDigits?_replicate (acc count : Nat) :
    continueDigits? acc (List.replicate count '0') = some (acc * 10 ^ count) := by
  induction count generalizing acc with
  | zero => simp [continueDigits?]
  | succ count ih =>
    have hzero : digitValue? '0' = some 0 := rfl
    rw [List.replicate_succ, continueDigits?, hzero]
    dsimp only
    rw [ih, Nat.pow_succ', Nat.add_zero, Nat.mul_comm 10, Nat.mul_assoc]

/-- A numeral of one width behind other digits adds its number to theirs. -/
theorem continueDigits?_zeroPadded {width n : Nat} (hwidth : 0 < width) (hn : n < 10 ^ width)
    (acc : Nat) : continueDigits? acc (zeroPadded width n) = some (10 ^ width * acc + n) := by
  induction width, hwidth using Nat.le_induction generalizing n with
  | base =>
    rw [zeroPadded_one hn, continueDigits?_singleton,
      digitValue?_eq_some_iff.2 ⟨hn, rfl⟩, Option.map_some]
  | succ width hwidth ih =>
    rw [zeroPadded_succ n hwidth, continueDigits?_append, ih (div_ten_lt hn), Option.bind_some,
      continueDigits?_singleton, digitValue?_eq_some_iff.2 ⟨Nat.mod_lt n (by decide), rfl⟩,
      Option.map_some, Nat.pow_succ]
    congr 1
    have := Nat.div_add_mod n 10
    rw [Nat.mul_add, Nat.add_assoc, this, ← Nat.mul_assoc, Nat.mul_comm 10]

/-- Further digits make a number no smaller. -/
theorem le_of_continueDigits? {acc n : Nat} {cs : List Char}
    (h : continueDigits? acc cs = some n) : acc ≤ n := by
  induction cs generalizing acc with
  | nil => exact Nat.le_of_eq (Option.some.inj h)
  | cons c cs ih =>
    rw [continueDigits?] at h
    cases hvalue : digitValue? c with
    | none =>
      rw [hvalue] at h
      cases h
    | some d =>
      rw [hvalue] at h
      have := ih h
      omega

/-- A numeral is **read back**, whatever its width. -/
theorem ofDigits?_zeroPadded (width n : Nat) : ofDigits? (zeroPadded width n) = some n := by
  have hzeros (count : Nat) : continueDigits? 0 (List.replicate count '0') = some 0 := by
    induction count with
    | zero => rfl
    | succ count ih => exact ih
  have hne : (zeroPadded width n).isEmpty = false := by simp [zeroPadded, digits_ne_nil]
  rw [ofDigits?, hne, if_neg Bool.false_ne_true, zeroPadded, continueDigits?_append, hzeros,
    Option.bind_some, continueDigits?_digits]

/-- Numerals of one width are the same only for the same number. -/
theorem zeroPadded_inj {width m n : Nat} : zeroPadded width m = zeroPadded width n ↔ m = n := by
  refine ⟨fun h => ?_, congrArg _⟩
  have hread := congrArg ofDigits? h
  rw [ofDigits?_zeroPadded, ofDigits?_zeroPadded] at hread
  exact Option.some.inj hread

/-- Fields of one width are told apart from what is behind them. -/
theorem field_eq_iff {width m n : Nat} {rest rest' : List Char} (hwidth : 0 < width)
    (hm : m < 10 ^ width) (hn : n < 10 ^ width) :
    zeroPadded width m ++ rest = zeroPadded width n ++ rest' ↔ m = n ∧ rest = rest' := by
  rw [List.append_eq_append_iff_of_size_eq_left (length_zeroPadded_eq hwidth hm hn),
    zeroPadded_inj]

/-- What is read as a number is the **numeral of this number**, with as many digits as there are
characters.

**Proof sketch.** Induction on the text from its end. The last character is the digit of the
remainder by ten, and what is before it is read as the quotient. -/
theorem eq_zeroPadded_of_ofDigits? {cs : List Char} {n : Nat} (h : ofDigits? cs = some n) :
    n < 10 ^ cs.length ∧ cs = zeroPadded cs.length n := by
  have hne : cs ≠ [] := by
    rintro rfl
    cases h
  rw [ofDigits?, if_neg (by simpa using hne)] at h
  induction cs using List.reverseRecOn generalizing n with
  | nil => exact (hne rfl).elim
  | append_singleton cs c ih =>
    rw [continueDigits?_append] at h
    obtain ⟨m, hm, hc⟩ := Option.bind_eq_some_iff.1 h
    rw [continueDigits?_singleton] at hc
    obtain ⟨d, hvalue, rfl⟩ := Option.map_eq_some_iff.1 hc
    obtain ⟨hd, rfl⟩ := digitValue?_eq_some_iff.1 hvalue
    rw [List.length_append, List.length_singleton]
    by_cases hcs : cs = []
    · subst hcs
      obtain rfl := Option.some.inj hm
      simp [zeroPadded_one hd, hd]
    · obtain ⟨hbound, hnumeral⟩ := ih hm hcs
      refine ⟨by rw [Nat.pow_succ]; omega, ?_⟩
      rw [zeroPadded_succ _ (List.length_pos_of_ne_nil hcs),
        show (10 * m + d) / 10 = m by omega, show (10 * m + d) % 10 = d by omega, ← hnumeral]

/-- A character is a digit if its code lies between those of `0` and `9`. -/
theorem isDigit_iff {c : Char} : c.isDigit = true ↔ 48 ≤ c.toNat ∧ c.toNat ≤ 57 := by
  rw [Char.isDigit, Bool.and_eq_true, decide_eq_true_eq, decide_eq_true_eq, ge_iff_le,
    UInt32.le_iff_toNat_le, UInt32.le_iff_toNat_le]
  rfl

/-- A text can be read as a number if it is a row of digits. -/
theorem exists_ofDigits? {cs : List Char} (hne : cs ≠ []) (h : ∀ c ∈ cs, c.isDigit = true) :
    ∃ n, ofDigits? cs = some n := by
  have hread (acc : Nat) : ∃ n, continueDigits? acc cs = some n := by
    clear hne
    induction cs generalizing acc with
    | nil => exact ⟨acc, rfl⟩
    | cons c cs ih =>
      rw [continueDigits?, digitValue?, if_pos (isDigit_iff.1 (h c List.mem_cons_self))]
      exact ih (fun d hd => h d (List.mem_cons_of_mem c hd)) _
  rw [ofDigits?, if_neg (by simpa using hne)]
  exact hread 0

/-- A text that does not start with a sign is read as it stands. -/
theorem readInt64?_of_unsigned {cs : List Char} (hminus : '-' ∉ cs.head?) (hplus : '+' ∉ cs.head?) :
    readInt64? cs =
      ((ofDigits? cs).map Int.ofNat).filter fun n => -(2 ^ 63 : Int) ≤ n ∧ n < 2 ^ 63 := by
  unfold readInt64?
  split
  · exact (hminus rfl).elim
  · exact (hplus rfl).elim
  · rfl

/-- An integer of the 64-bit range is **read back**. -/
theorem readInt64?_signedDigits {n : Int} (hn : -(2 ^ 63) ≤ n ∧ n < 2 ^ 63) :
    readInt64? (signedDigits n) = some n := by
  have hdigits : ofDigits? (digits n.natAbs) = some n.natAbs := by
    rw [← zeroPadded_zero, ofDigits?_zeroPadded]
  unfold signedDigits
  split
  · next hneg =>
    have hvalue : -(n.natAbs : Int) = n := by omega
    rw [readInt64?, hdigits]
    -- The coercion to the integers has made a bind of the map.
    change Option.filter _ (some (-(n.natAbs : Int))) = some n
    rw [hvalue, Option.filter_some_pos (by simpa using hn)]
  · next hneg =>
    have hhead (c : Char) (hc : c ∈ (digits n.natAbs).head?) : c.isDigit = true :=
      isDigit_of_mem_digits (List.mem_of_mem_head? hc)
    have hvalue : (n.natAbs : Int) = n := by omega
    rw [readInt64?_of_unsigned (fun h => absurd (hhead _ h) (by decide))
      (fun h => absurd (hhead _ h) (by decide)), hdigits, Option.map_some, Int.ofNat_eq_natCast,
      hvalue, Option.filter_some_pos (by simpa using hn)]

/-- Integers have different numerals. -/
theorem signedDigits_inj {m n : Int} : signedDigits m = signedDigits n ↔ m = n := by
  have hminus (n : Nat) : '-' ∉ digits n :=
    zeroPadded_zero n ▸ notMem_zeroPadded (show '-'.isDigit = false by decide) 0 n
  have hdigits {m n : Nat} (h : digits m = digits n) : m = n := by
    rwa [← zeroPadded_zero, ← zeroPadded_zero, zeroPadded_inj] at h
  refine ⟨fun h => ?_, congrArg _⟩
  unfold signedDigits at h
  split_ifs at h with hm hn hn
  · have := hdigits (List.cons.inj h).2
    omega
  · exact (hminus _ (h ▸ List.mem_cons_self)).elim
  · exact (hminus _ (h ▸ List.mem_cons_self)).elim
  · have := hdigits h
    omega

/-! ## Order -/

/-- Digits are ordered like their values. -/
theorem digitChar_lt_iff {m n : Nat} (hm : m < 10) (hn : n < 10) :
    [digitChar m] < [digitChar n] ↔ m < n := by
  have hall : ∀ m : Fin 10, ∀ n : Fin 10, [digitChar m] < [digitChar n] ↔ m < n := by decide
  exact hall ⟨m, hm⟩ ⟨n, hn⟩

/-- **Numerals of one width** are ordered like their numbers.

**Proof sketch.** Induction on the width. The last digit counts only if all others agree. -/
theorem zeroPadded_lt_iff {width m n : Nat} (hwidth : 0 < width) (hm : m < 10 ^ width)
    (hn : n < 10 ^ width) : zeroPadded width m < zeroPadded width n ↔ m < n := by
  induction width, hwidth using Nat.le_induction generalizing m n with
  | base => rw [zeroPadded_one hm, zeroPadded_one hn, digitChar_lt_iff hm hn]
  | succ width hwidth ih =>
    have hlength := length_zeroPadded_eq hwidth (div_ten_lt hm) (div_ten_lt hn)
    rw [zeroPadded_succ m hwidth, zeroPadded_succ n hwidth, append_lt_append_iff hlength,
      ih (div_ten_lt hm) (div_ten_lt hn), zeroPadded_inj,
      digitChar_lt_iff (Nat.mod_lt m (by decide)) (Nat.mod_lt n (by decide))]
    omega

/-- A field of one width is compared first, and what is behind it only if it is the same. -/
theorem field_lt_iff {width m n : Nat} {rest rest' : List Char} (hwidth : 0 < width)
    (hm : m < 10 ^ width) (hn : n < 10 ^ width) :
    zeroPadded width m ++ rest < zeroPadded width n ++ rest' ↔ m < n ∨ m = n ∧ rest < rest' := by
  rw [append_lt_append_iff (length_zeroPadded_eq hwidth hm hn), zeroPadded_lt_iff hwidth hm hn,
    zeroPadded_inj]

end OrderDesk.Text
