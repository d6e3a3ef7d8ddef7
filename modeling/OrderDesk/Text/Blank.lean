/-!
# Blank characters and trimming

The characters of the Unicode property *White_Space*, and the removal of blanks at both ends of a
text.

## Main definitions

* `OrderDesk.Text.isBlank`: membership in *White_Space*.
* `OrderDesk.Text.trim`: a text without the blanks at its two ends.
-/

set_option autoImplicit false

namespace OrderDesk.Text

/-- The Unicode property *White_Space*. The zero width space U+200B and the byte order mark U+FEFF
do not have it. -/
def isBlank (c : Char) : Bool :=
  (0x09 ≤ c.toNat && c.toNat ≤ 0x0D) || c.toNat == 0x20 || c.toNat == 0x85 || c.toNat == 0xA0 ||
    c.toNat == 0x1680 || (0x2000 ≤ c.toNat && c.toNat ≤ 0x200A) || c.toNat == 0x2028 ||
    c.toNat == 0x2029 || c.toNat == 0x202F || c.toNat == 0x205F || c.toNat == 0x3000

/-- The characters from the first that is not blank. -/
def trimStart (cs : List Char) : List Char :=
  cs.dropWhile isBlank

/-- The characters up to the last that is not blank. -/
def trimEnd (cs : List Char) : List Char :=
  (trimStart cs.reverse).reverse

/-- A text without the blanks at its two ends. -/
def trim (s : String) : String :=
  String.ofList (trimEnd (trimStart s.toList))

/-- Every blank of the ASCII range is a Unicode blank. -/
theorem isBlank_of_isWhitespace {c : Char} (h : c.isWhitespace = true) : isBlank c = true := by
  simp only [Char.isWhitespace, Bool.or_eq_true, decide_eq_true_eq] at h
  rcases h with ((h | h) | h) | h <;> subst h <;> decide

example : trim "\t btc \u3000" = "btc" := by decide +kernel

example : trim "\u200bbtc" = "\u200bbtc" := by decide +kernel

end OrderDesk.Text
