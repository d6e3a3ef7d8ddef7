/-!
# Random identifiers

The 128-bit identifiers from which order IDs take their random part, as hexadecimal digits.

## Main definitions

* `OrderDesk.Uuid`: 128 bits.
* `OrderDesk.Uuid.hexDigits`: its 32 lowercase hexadecimal digits.
* `OrderDesk.Uuid.IsRandom`: the version and variant digits of a randomly drawn identifier.
-/

set_option autoImplicit false

namespace OrderDesk

/-- An identifier of 128 bits. -/
structure Uuid where
  bits : Nat
  bits_lt : bits < 2 ^ 128
deriving DecidableEq

/-- The lowercase hexadecimal digit of a value below 16. -/
def hexDigit (d : Nat) : Char :=
  if d < 10 then Char.ofNat (48 + d) else Char.ofNat (87 + d)

/-- The last `count` hexadecimal digits of a number, zeros included. -/
def hexDigits : Nat → Nat → List Char
  | 0, _ => []
  | count + 1, n => hexDigits count (n / 16) ++ [hexDigit (n % 16)]

namespace Uuid

instance : Inhabited Uuid :=
  ⟨0, by decide⟩

/-- The 32 hexadecimal digits, most significant first. -/
def hexDigits (u : Uuid) : List Char :=
  OrderDesk.hexDigits 32 u.bits

/-- A randomly drawn identifier has version 4 at its thirteenth digit and a variant digit from `8`
to `b` at its seventeenth; the other digits are arbitrary. -/
def IsRandom (u : Uuid) : Prop :=
  u.hexDigits[12]? = some '4' ∧ ∃ c ∈ ['8', '9', 'a', 'b'], u.hexDigits[16]? = some c

end Uuid

/-- A row of hexadecimal digits has the length asked for. -/
@[simp]
theorem length_hexDigits (count n : Nat) : (hexDigits count n).length = count := by
  induction count generalizing n with
  | zero => rfl
  | succ count ih => simp [hexDigits, ih]

/-- A row of hexadecimal digits is made of the digits of values below 16. -/
theorem exists_of_mem_hexDigits {count n : Nat} {c : Char} (h : c ∈ hexDigits count n) :
    ∃ d, d < 16 ∧ c = hexDigit d := by
  induction count generalizing n with
  | zero => simp [hexDigits] at h
  | succ count ih =>
    rcases List.mem_append.1 h with hrest | hlast
    · exact ih hrest
    · exact ⟨n % 16, Nat.mod_lt n (by decide), List.mem_singleton.1 hlast⟩

end OrderDesk
