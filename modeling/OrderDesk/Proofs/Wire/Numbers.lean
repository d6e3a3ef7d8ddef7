import OrderDesk.Decimal.Written
import OrderDesk.Json.Record
import OrderDesk.Proofs.Wire.Text

/-!
# Numbers are read back

A decimal is written with all of its digits and places, so that nothing of it is lost: the reader
takes one digit after the other, and as long as the number fits no digit rounds it. A zero with a
minus sign is the only decimal that is not read back. Whole numbers of the machine ranges are read
back as well.

## Main results

* `OrderDesk.Decimal.readDigits?_append` — a row of digits is read up to its end.
* `OrderDesk.Decimal.read?_text` — a decimal is read back.
* `OrderDesk.Json.int64?_ofInt`, `OrderDesk.Json.nat64?_ofInt` — whole numbers are read back.
-/

set_option autoImplicit false

namespace OrderDesk

open Text

namespace Decimal

/-- **A row of digits is read up to its end** while the number fits: no digit rounds it. -/
theorem readDigits?_append {point started : Bool} {coefficient scale n : Nat} {cs rest : List Char}
    (hread : continueDigits? coefficient cs = some n) (hn : n < 2 ^ 96)
    (hscale : if point then scale + cs.length ≤ 28 else scale < 28) (hrest : '_' ∉ rest.head?) :
    readDigits? point started coefficient scale (cs ++ rest) =
      readDigits? point (started || !cs.isEmpty) n
        (if point then scale + cs.length else scale) rest := by
  induction cs generalizing started coefficient scale with
  | nil =>
    obtain rfl := Option.some.inj hread
    simp
  | cons c cs ih =>
    rw [continueDigits?] at hread
    cases hvalue : digitValue? c with
    | none =>
      rw [hvalue] at hread
      cases hread
    | some d =>
      rw [hvalue] at hread
      have hfits : scale < 28 ∧ 10 * coefficient + d < 2 ^ 96 := by
        have := le_of_continueDigits? hread
        rw [List.length_cons] at hscale
        refine ⟨?_, by omega⟩
        split at hscale <;> omega
      have hnext : ¬(cs ++ rest).head? = some '_' := by
        cases cs with
        | nil => exact fun h => hrest h
        | cons c' cs =>
          intro h
          obtain rfl := Option.some.inj h
          cases hread
      have hnext' : ¬(point = true ∧ scale = 27 ∧ areFew coefficient = true ∧
          (cs ++ rest).head? = some '_') := fun h => hnext h.2.2.2
      rw [List.cons_append, readDigits?, hvalue]
      dsimp only
      rw [if_pos hfits, if_neg hnext', ih hread]
      · cases point <;> simp [Nat.add_assoc, Nat.add_comm 1]
      · rw [List.length_cons] at hscale
        cases point
        · exact hscale
        · simp only [if_true] at hscale ⊢
          omega

/-- The digits of a decimal are read as its coefficient and its scale. -/
theorem readDigits?_chars (a : Decimal) :
    readDigits? false false 0 0
      (a.integerPart ++ (if a.scale = 0 then [] else '.' :: a.places)) =
        some (a.coefficient.natAbs, a.scale) := by
  have hunit : 0 < 10 ^ a.scale := Nat.pow_pos (by decide)
  have hwhole : continueDigits? 0 a.integerPart = some (a.coefficient.natAbs / 10 ^ a.scale) :=
    continueDigits?_digits _
  have hwhole_lt : a.coefficient.natAbs / 10 ^ a.scale < 2 ^ 96 :=
    Nat.lt_of_le_of_lt (Nat.div_le_self _ _) a.natAbs_lt
  have hstarted : a.integerPart.isEmpty = false := by
    simpa [integerPart] using digits_ne_nil _
  by_cases hscale : a.scale = 0
  · rw [if_pos hscale, readDigits?_append hwhole hwhole_lt (by simp) (by simp), hstarted, hscale,
      Nat.pow_zero, Nat.div_one]
    rfl
  · have hplaces : continueDigits? (a.coefficient.natAbs / 10 ^ a.scale) a.places =
        some a.coefficient.natAbs := by
      rw [places, if_neg hscale, continueDigits?_zeroPadded (Nat.pos_of_ne_zero hscale)
        (Nat.mod_lt _ hunit), Nat.div_add_mod]
    have hlength : a.places.length = a.scale := by
      rw [places, if_neg hscale, length_zeroPadded (Nat.pos_of_ne_zero hscale)
        (Nat.mod_lt _ hunit)]
    rw [if_neg hscale, readDigits?_append hwhole hwhole_lt (by simp) (by simp), hstarted]
    have hend : readDigits? true true (a.coefficient.natAbs / 10 ^ a.scale) 0 (a.places ++ []) =
        some (a.coefficient.natAbs, a.scale) := by
      rw [readDigits?_append hplaces a.natAbs_lt (by simp [hlength, a.scale_le]) (by simp), hlength,
        if_pos rfl, Nat.zero_add]
      rfl
    rw [List.append_nil] at hend
    exact hend

/-- A decimal is **read back** from its text, unless it is a zero with a minus sign. -/
theorem read?_text {a : Decimal} (h : a.minusZero = false) : read? a.text = some a := by
  have hmake (c : Int) (hc : c = a.coefficient) : make? c a.scale = some a := by
    subst hc
    rw [make?, dif_pos ⟨a.natAbs_lt, a.scale_le⟩]
    cases a
    cases h
    rfl
  have hplain : readPlain? a.chars = some a := by
    have hdigits := a.readDigits?_chars
    unfold chars sign
    rw [List.append_assoc]
    by_cases hneg : a.coefficient < 0
    · rw [if_pos (by simp [isNegative, hneg]), List.singleton_append, readPlain?, hdigits]
      exact hmake _ (by omega)
    · obtain ⟨c, cs, hcs, hdigit⟩ := exists_digits (a.coefficient.natAbs / 10 ^ a.scale)
      rw [if_neg (by simp [isNegative, hneg, h]), List.nil_append]
      unfold readPlain?
      split
      · next heq =>
        rw [integerPart, hcs] at heq
        exact (ne_of_isDigit hdigit (by decide) (List.cons.inj heq).1).elim
      · next heq =>
        rw [integerPart, hcs] at heq
        exact (ne_of_isDigit hdigit (by decide) (List.cons.inj heq).1).elim
      · rw [hdigits]
        exact hmake _ (by omega)
  rw [read?, text, String.toList_ofList, hplain]

end Decimal

namespace Json

/-- A whole number of either machine range keeps its value as a written number. -/
theorem toInt?_ofInt {n : Int} (hlow : -(2 ^ 63) ≤ n) (hhigh : n < 2 ^ 64) :
    (Numeral.ofInt n).toInt? = some n := by
  have hvalue := (digitsOf_spec n.natAbs).2
  unfold Numeral.toInt? Numeral.ofInt
  simp only [hvalue, Numeral.isWhole, List.isEmpty_nil, Option.isNone_none, Bool.and_self,
    Bool.not_true, Bool.false_eq_true, if_false, decide_eq_true_eq]
  split
  · next hneg =>
    rw [if_pos (by omega)]
    exact congrArg some (by omega)
  · next hpos =>
    rw [if_pos (by omega)]
    exact congrArg some (by omega)

/-- A whole number of 64 bits with sign is **read back**. -/
theorem int64?_ofInt {n : Int} (hlow : -(2 ^ 63) ≤ n) (hhigh : n < 2 ^ 63) :
    int64? (.ofInt n) = some n := by
  change (Numeral.ofInt n).toInt?.filter _ = _
  rw [toInt?_ofInt hlow (by omega), Option.filter_some_pos (by simpa using hhigh)]

/-- A whole number of 64 bits without sign is **read back**. -/
theorem nat64?_ofInt {n : Nat} (h : n < 2 ^ 64) : nat64? (.ofInt n) = some n := by
  change (Numeral.ofInt n).toInt?.bind Int.toNat? = _
  rw [toInt?_ofInt (by omega) (by omega)]
  rfl

end Json

end OrderDesk
