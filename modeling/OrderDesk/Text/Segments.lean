/-!
# Segments of a text

A text cut at every occurrence of a separator. A text with `n` separators has `n + 1` segments, some
of them possibly empty.
-/

set_option autoImplicit false

namespace OrderDesk.Text

/-- The segments between the occurrences of `separator`. -/
def segments (separator : Char) : List Char → List (List Char)
  | [] => [[]]
  | c :: cs =>
    if c = separator then [] :: segments separator cs
    else match segments separator cs with
      | [] => [[c]]
      | s :: ss => (c :: s) :: ss

/-- Every text has a segment. -/
theorem segments_ne_nil (separator : Char) (cs : List Char) : segments separator cs ≠ [] := by
  cases cs with
  | nil => simp [segments]
  | cons c cs =>
    unfold segments
    split
    · simp
    · split <;> simp

/-- A text has one segment more than it has separators. -/
theorem length_segments (separator : Char) (cs : List Char) :
    (segments separator cs).length = cs.count separator + 1 := by
  induction cs with
  | nil => rfl
  | cons c cs ih =>
    unfold segments
    split
    · next h => simp [h, ih]
    · next h =>
      split
      · next hs => exact absurd hs (segments_ne_nil separator cs)
      · next s ss hs =>
        rw [hs] at ih
        simp only [List.length_cons] at ih ⊢
        rw [List.count_cons_of_ne h]
        omega

/-- A text without a separator is its only segment. -/
theorem segments_eq_singleton {separator : Char} {cs : List Char} (h : separator ∉ cs) :
    segments separator cs = [cs] := by
  induction cs with
  | nil => rfl
  | cons c cs ih =>
    have hne : c ≠ separator := fun hc => h (hc ▸ List.mem_cons_self)
    rw [segments, if_neg hne, ih fun hmem => h (List.mem_cons_of_mem c hmem)]

/-- Texts on both sides of a separator are cut apart from one another. -/
theorem segments_append_cons (separator : Char) (cs rest : List Char) :
    segments separator (cs ++ separator :: rest) =
      segments separator cs ++ segments separator rest := by
  induction cs with
  | nil => simp [segments]
  | cons c cs ih =>
    rw [List.cons_append, segments, segments, ih]
    split
    · rw [List.cons_append]
    · cases hcs : segments separator cs with
      | nil => exact absurd hcs (segments_ne_nil separator cs)
      | cons s ss => rfl

end OrderDesk.Text
