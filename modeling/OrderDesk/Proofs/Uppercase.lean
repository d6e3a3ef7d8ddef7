import Mathlib.Data.List.DropRight
import OrderDesk.Proofs.Names

/-!
# Normal forms of any text

The normal form of a symbol is its own normal form, whatever the symbol is. What the tables map to
is not mapped again, so that uppercase is taken once. No mapped character is blank, and none is
mapped to a blank, so that there is nothing to trim in the uppercase of a text that has been
trimmed.

## Main definitions

* `OrderDesk.Text.uppercaseRows` — the two tables of the uppercase mapping as one.
* `OrderDesk.Text.IsFinal` — a code point that is not mapped again.

## Main results

* `OrderDesk.Text.uppercase_uppercase` — uppercase is taken once.
* `OrderDesk.Text.trim_trim`, `OrderDesk.Text.trim_uppercase` — blanks are left out once.
* `OrderDesk.AssetId.ofText_text_ofText` — the normal form of a normal form.
-/

set_option autoImplicit false

namespace OrderDesk

namespace Text

/-! ## The tables -/

/-- The rows that a run stands for, one for each member. -/
def rowsOfRun : Nat × Nat × Nat × Nat → List (Nat × List Nat)
  | (first, last, step, target) =>
    ((List.range' first (last + 1 - first)).filter fun n => (n - first) % step == 0).map
      fun n => (n, [target + (n - first)])

/-- The two tables as one: the code points above the ASCII range that have another uppercase, each
with its uppercase. -/
def uppercaseRows : List (Nat × List Nat) :=
  uppercaseExpansions ++ uppercaseRuns.flatMap rowsOfRun

/-- The uppercase of a character is that of its row; without a row the character is kept. -/
theorem uppercaseBeyondAscii_cases (c : Char) :
    (∃ row ∈ uppercaseRows, row.1 = c.toNat ∧ uppercaseBeyondAscii c = row.2.map Char.ofNat) ∨
      uppercaseBeyondAscii c = [c] := by
  unfold uppercaseBeyondAscii
  split
  · next cs hlookup =>
    obtain ⟨before, behind, hrows, -⟩ := List.lookup_eq_some_iff.1 hlookup
    have hmem : (c.toNat, cs) ∈ uppercaseExpansions := by simp [hrows]
    exact .inl ⟨_, List.mem_append_left _ hmem, rfl, rfl⟩
  · split
    · next first last step target hfind =>
      have hmember := List.find?_some hfind
      simp only [Bool.and_eq_true, decide_eq_true_eq] at hmember
      have hrow : (c.toNat, [target + (c.toNat - first)]) ∈ rowsOfRun (first, last, step, target) :=
        List.mem_map.2 ⟨c.toNat, by simp [List.mem_range'_1, hmember]; omega, rfl⟩
      have hmem := List.mem_flatMap.2 ⟨_, List.mem_of_find?_eq_some hfind, hrow⟩
      exact .inl ⟨_, List.mem_append_right _ hmem, rfl, rfl⟩
    · exact .inr rfl

/-! ## Images -/

/-- A set of code points as the bits of a number, which makes it fast to look in. -/
def bits (ns : List Nat) : Nat :=
  ns.foldr (fun n acc => acc ||| 1 <<< n) 0

/-- A bit is set exactly for the members of the set. -/
theorem testBit_bits {ns : List Nat} {n : Nat} : (bits ns).testBit n = decide (n ∈ ns) := by
  induction ns with
  | nil => simp [bits]
  | cons m ns ih =>
    change (bits ns ||| 1 <<< m).testBit n = _
    rw [Nat.testBit_or, ih, Nat.one_shiftLeft, Nat.testBit_two_pow]
    simp [Bool.or_comm, eq_comm]

/-- A code point is **final** if it is that of a character that is not blank and has no other
uppercase. -/
def IsFinal (n : Nat) : Prop :=
  (Char.ofNat n).toNat = n ∧ isBlank (Char.ofNat n) = false ∧
    (n < 0x80 → (Char.ofNat n).toUpper = Char.ofNat n) ∧
    (bits (uppercaseRows.map Prod.fst)).testBit n = false

instance (n : Nat) : Decidable (IsFinal n) :=
  inferInstanceAs (Decidable (_ ∧ _ ∧ _ ∧ _))

/-- **What is mapped is not blank, and is mapped to final code points.** -/
theorem isFinal_of_mem_uppercaseRows :
    ∀ row ∈ uppercaseRows,
      isBlank (Char.ofNat row.1) = false ∧ row.2 ≠ [] ∧ ∀ n ∈ row.2, IsFinal n := by
  decide +kernel

/-- The character of a final code point has no other uppercase. -/
theorem IsFinal.uppercaseChar {n : Nat} (h : IsFinal n) :
    uppercaseChar (Char.ofNat n) = [Char.ofNat n] := by
  obtain ⟨hvalid, -, hascii, hrow⟩ := h
  unfold Text.uppercaseChar
  rw [hvalid]
  split
  · next hless => rw [hascii hless]
  · obtain ⟨row, hmem, hcode, -⟩ | hkept := uppercaseBeyondAscii_cases (Char.ofNat n)
    · rw [testBit_bits, decide_eq_false_iff_not, ← hvalid, ← hcode] at hrow
      exact absurd (List.mem_map_of_mem hmem) hrow
    · exact hkept

/-- A character has no other uppercase, or neither it nor any character of its uppercase is blank,
and none of these has another uppercase. -/
theorem uppercaseChar_cases (c : Char) :
    uppercaseChar c = [c] ∨
      isBlank c = false ∧ uppercaseChar c ≠ [] ∧
        ∀ d ∈ uppercaseChar c, uppercaseChar d = [d] ∧ isBlank d = false := by
  by_cases hascii : c.toNat < 0x80
  · obtain hkept | ⟨hblank, hsingle, hfinal⟩ := ascii_forall
      (P := fun c => uppercaseChar c = [c] ∨ isBlank c = false ∧ uppercaseChar c = [c.toUpper] ∧
        uppercaseChar c.toUpper = [c.toUpper] ∧ isBlank c.toUpper = false)
      (by decide +kernel) hascii
    · exact .inl hkept
    · rw [hsingle]
      exact .inr ⟨hblank, List.cons_ne_nil _ _, by simpa using hfinal⟩
  have huppercase : uppercaseChar c = uppercaseBeyondAscii c := if_neg hascii
  rw [huppercase]
  obtain ⟨row, hmem, hcode, himage⟩ | hkept := uppercaseBeyondAscii_cases c
  · obtain ⟨hblank, hne, hfinal⟩ := isFinal_of_mem_uppercaseRows row hmem
    rw [hcode, Char.ofNat_toNat] at hblank
    refine .inr ⟨hblank, by simpa [himage] using hne, fun d hd => ?_⟩
    rw [himage] at hd
    obtain ⟨n, hn, rfl⟩ := List.mem_map.1 hd
    exact ⟨(hfinal n hn).uppercaseChar, (hfinal n hn).2.1⟩
  · exact .inl hkept

/-- The characters of an uppercase have no other uppercase. -/
theorem uppercaseChar_of_mem {c d : Char} (h : d ∈ uppercaseChar c) : uppercaseChar d = [d] := by
  obtain hkept | ⟨-, -, hfinal⟩ := uppercaseChar_cases c
  · rw [hkept, List.mem_singleton] at h
    rwa [h]
  · exact (hfinal d h).1

/-- The uppercase of a character that is not blank has characters, and none of them is blank. -/
theorem isBlank_uppercaseChar {c : Char} (h : isBlank c = false) :
    uppercaseChar c ≠ [] ∧ ∀ d ∈ uppercaseChar c, isBlank d = false := by
  obtain hkept | ⟨-, hne, hfinal⟩ := uppercaseChar_cases c
  · simpa [hkept] using h
  · exact ⟨hne, fun d hd => (hfinal d hd).2⟩

/-! ## Texts -/

/-- **Uppercase is taken once.** -/
theorem uppercase_uppercase (s : String) : uppercase (uppercase s) = uppercase s := by
  unfold uppercase
  congr 1
  rw [String.toList_ofList, List.flatMap_assoc]
  refine List.flatMap_congr fun c _ => ?_
  calc (uppercaseChar c).flatMap uppercaseChar
      = (uppercaseChar c).flatMap fun d => [d] :=
        List.flatMap_congr fun d hd => uppercaseChar_of_mem hd
    _ = uppercaseChar c := List.flatMap_singleton' _

/-- Nothing is trimmed at the start exactly if no blank is there. -/
theorem trimStart_eq_self_iff {cs : List Char} :
    trimStart cs = cs ↔ ∀ c ∈ cs.head?, isBlank c = false := by
  cases cs with
  | nil => simp [trimStart]
  | cons c cs => simp [trimStart, List.dropWhile_eq_self_iff]

/-- Nothing is trimmed exactly if no blank is at either end. -/
theorem trim_eq_self_iff {s : String} :
    trim s = s ↔ (∀ c ∈ s.toList.head?, isBlank c = false) ∧
      ∀ c ∈ s.toList.reverse.head?, isBlank c = false := by
  rw [← trimStart_eq_self_iff, ← trimStart_eq_self_iff]
  constructor
  · intro h
    have hlist : trimEnd (trimStart s.toList) = s.toList := by
      rw [← String.toList_ofList (l := trimEnd (trimStart s.toList))]
      exact congrArg String.toList h
    have hprefix : trimEnd (trimStart s.toList) <+: trimStart s.toList :=
      List.rdropWhile_prefix isBlank _
    have hsuffix : trimStart s.toList <:+ s.toList := List.dropWhile_suffix isBlank
    rw [hlist] at hprefix
    have hstart : trimStart s.toList = s.toList := hsuffix.eq_of_length_le hprefix.length_le
    rw [hstart] at hlist
    exact ⟨hstart, List.reverse_eq_iff.1 hlist⟩
  · rintro ⟨hstart, hend⟩
    rw [trim, hstart, trimEnd, hend, List.reverse_reverse, String.ofList_toList]

/-- **Blanks are left out once.** -/
theorem trim_trim (s : String) : trim (trim s) = trim s := by
  rw [trim_eq_self_iff, trim, String.toList_ofList]
  have hstart (cs : List Char) : ∀ c ∈ (trimStart cs).head?, isBlank c = false :=
    trimStart_eq_self_iff.1 (List.dropWhile_idempotent ..)
  constructor
  · intro c hc
    have hprefix : trimEnd (trimStart s.toList) <+: trimStart s.toList :=
      List.rdropWhile_prefix isBlank _
    refine hstart s.toList c ?_
    obtain ⟨behind, hbehind⟩ := hprefix
    rw [← hbehind]
    exact List.mem_head?_append_of_mem_head? hc
  · rw [trimEnd, List.reverse_reverse]
    exact hstart _

/-- No blank comes to the start where characters are replaced by others that are not blank. -/
theorem isBlank_head?_flatMap {f : Char → List Char} {cs : List Char}
    (hf : ∀ c, isBlank c = false → f c ≠ [] ∧ ∀ d ∈ f c, isBlank d = false)
    (h : ∀ c ∈ cs.head?, isBlank c = false) :
    ∀ d ∈ (cs.flatMap f).head?, isBlank d = false := by
  cases cs with
  | nil => simp
  | cons c cs =>
    obtain ⟨hne, hclear⟩ := hf c (h c rfl)
    intro d hd
    rw [List.flatMap_cons, List.head?_append_of_ne_nil _ hne] at hd
    exact hclear d (List.mem_of_mem_head? hd)

/-- **There is nothing to trim in the uppercase** of a text that is trimmed. -/
theorem trim_uppercase {s : String} (h : trim s = s) : trim (uppercase s) = uppercase s := by
  obtain ⟨hstart, hend⟩ := trim_eq_self_iff.1 h
  rw [trim_eq_self_iff, uppercase, String.toList_ofList, List.reverse_flatMap]
  refine ⟨isBlank_head?_flatMap (fun c => isBlank_uppercaseChar) hstart,
    isBlank_head?_flatMap (fun c hc => ?_) hend⟩
  simpa using isBlank_uppercaseChar hc

end Text

/-- **The normal form of a normal form** is the same, whatever the symbol is. -/
theorem AssetId.ofText_text_ofText (s : String) : ofText (ofText s).text = ofText s := by
  unfold ofText
  rw [Text.trim_uppercase (Text.trim_trim s), Text.uppercase_uppercase]

end OrderDesk
