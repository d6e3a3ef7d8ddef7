import Mathlib.Data.String.Basic
import OrderDesk.Order.Form

/-!
# User names and asset symbols

The checks of user names and asset symbols accept exactly the texts with few enough characters of
the right kind between blanks, and bring them into a normal form that is accepted as it is.

## Main definitions

* `OrderDesk.Text.IsUsername`, `OrderDesk.Text.IsSymbol` — the texts that are accepted.

## Main results

* `OrderDesk.Field.username_eq_ok_iff`, `OrderDesk.Field.assetId_eq_ok_iff` — what is accepted.
* `OrderDesk.Field.username_of_username`, `OrderDesk.Field.assetId_of_assetId` — what has been
  accepted is accepted unchanged.
-/

set_option autoImplicit false

namespace OrderDesk

namespace Text

/-! ## Characters -/

/-- What holds of each of the 128 ASCII characters. -/
theorem ascii_forall {P : Char → Prop} (h : ∀ n < 128, P (Char.ofNat n)) {c : Char}
    (hc : c.toNat < 128) : P c := by
  have := h c.toNat hc
  rwa [Char.ofNat_toNat] at this

/-- Letters and digits are ASCII characters. -/
theorem toNat_lt_of_isAlphanum {c : Char} (h : c.isAlphanum = true) : c.toNat < 128 := by
  change (decide (c.val ≥ 'A'.val ∧ c.val ≤ 'Z'.val) ||
    (decide (c.val ≥ 'a'.val) && decide (c.val ≤ 'z'.val)) ||
    (decide (c.val ≥ '0'.val) && decide (c.val ≤ '9'.val))) = true at h
  simp only [Bool.or_eq_true, Bool.and_eq_true, decide_eq_true_eq, ge_iff_le,
    UInt32.le_iff_toNat_le] at h
  change c.val.toNat < 128
  have hZ : 'Z'.val.toNat = 90 := rfl
  have hz : 'z'.val.toNat = 122 := rfl
  have h9 : '9'.val.toNat = 57 := rfl
  omega

/-- The uppercase of a letter or digit is a single letter or digit, which has no other uppercase. -/
theorem uppercaseChar_of_isAlphanum {c : Char} (h : c.isAlphanum = true) :
    uppercaseChar c = [c.toUpper] ∧ c.toUpper.isAlphanum = true ∧ c.toUpper.toUpper = c.toUpper :=
  ascii_forall
    (P := fun c => c.isAlphanum = true → uppercaseChar c = [c.toUpper] ∧
      c.toUpper.isAlphanum = true ∧ c.toUpper.toUpper = c.toUpper)
    (by decide +kernel) (toNat_lt_of_isAlphanum h) h

/-- A character of a user name is a letter, a digit, an underscore or a hyphen. -/
theorem isUsernameCharacter_iff {c : Char} :
    Field.isUsernameCharacter c = true ↔ c.isAlphanum = true ∨ c = '_' ∨ c = '-' := by
  simp [Field.isUsernameCharacter, or_assoc]

/-- A character of a user name is not blank. -/
theorem isBlank_eq_false {c : Char} (h : Field.isUsernameCharacter c = true) :
    isBlank c = false := by
  have hc : c.toNat < 128 := by
    obtain h | rfl | rfl := isUsernameCharacter_iff.1 h
    · exact toNat_lt_of_isAlphanum h
    · decide
    · decide
  exact ascii_forall (P := fun c => Field.isUsernameCharacter c = true → isBlank c = false)
    (by decide +kernel) hc h

/-! ## Texts -/

variable {s : String}

/-- Nothing is trimmed at the start of a text without blanks. -/
theorem trimStart_eq_self {cs : List Char} (h : ∀ c ∈ cs, isBlank c = false) :
    trimStart cs = cs := by
  cases cs with
  | nil => rfl
  | cons c cs => simp [trimStart, h c (List.mem_cons_self ..)]

/-- A text without blanks is not trimmed. -/
theorem trim_eq_self (h : ∀ c ∈ s.toList, isBlank c = false) : trim s = s := by
  have hreverse : ∀ c ∈ s.toList.reverse, isBlank c = false := by simpa using h
  simp [trim, trimEnd, trimStart_eq_self h, trimStart_eq_self hreverse]

/-- The uppercase of letters and digits is taken one by one. -/
theorem uppercase_eq (h : ∀ c ∈ s.toList, c.isAlphanum = true) :
    uppercase s = String.ofList (s.toList.map Char.toUpper) := by
  unfold uppercase
  congr 1
  rw [List.map_eq_flatMap]
  exact List.flatMap_congr fun c hc => (uppercaseChar_of_isAlphanum (h c hc)).1

/-- Letters and digits take one byte each. -/
theorem utf8ByteSize_eq (h : ∀ c ∈ s.toList, c.isAlphanum = true) :
    s.utf8ByteSize = s.length := by
  have hsize : ∀ c : Char, c.isAlphanum = true → c.utf8Size = 1 := fun c hc =>
    ascii_forall (P := fun c => c.utf8Size = 1) (by decide +kernel) (toNat_lt_of_isAlphanum hc)
  rw [← @String.ofList_toList s, String.utf8ByteSize_ofList, String.length_ofList]
  generalize s.toList = cs at h
  induction cs with
  | nil => rfl
  | cons c cs ih =>
    rw [String.utf8Len_cons, hsize c (h c (List.mem_cons_self ..)), List.length_cons,
      ih fun c hc => h c (List.mem_cons_of_mem _ hc)]

/-- A text is not empty exactly if it has a character. -/
theorem isEmpty_eq_false_iff : s.isEmpty = false ↔ 1 ≤ s.length := by
  rw [← Bool.not_eq_true, String.isEmpty_iff, ← String.length_eq_zero_iff]
  omega

/-- A **user name**: 3 to 50 letters, digits, underscores and hyphens. -/
structure IsUsername (s : String) : Prop where
  length : 3 ≤ s.length ∧ s.length ≤ 50
  characters : ∀ c ∈ s.toList, c.isAlphanum = true ∨ c = '_' ∨ c = '-'

/-- An **asset symbol** in any case: 1 to 10 letters and digits. -/
structure IsSymbol (s : String) : Prop where
  length : 1 ≤ s.length ∧ s.length ≤ 10
  characters : ∀ c ∈ s.toList, c.isAlphanum = true

/-- A user name is not trimmed. -/
theorem IsUsername.trim_eq (h : IsUsername s) : trim s = s :=
  trim_eq_self fun c hc => isBlank_eq_false (isUsernameCharacter_iff.2 (h.characters c hc))

/-- An asset symbol is not trimmed. -/
theorem IsSymbol.trim_eq (h : IsSymbol s) : trim s = s :=
  trim_eq_self fun c hc => isBlank_eq_false (isUsernameCharacter_iff.2 (.inl (h.characters c hc)))

/-- The uppercase of an asset symbol is an asset symbol, which has no other uppercase. -/
theorem IsSymbol.uppercase (h : IsSymbol s) :
    IsSymbol (Text.uppercase s) ∧ Text.uppercase (Text.uppercase s) = Text.uppercase s := by
  have hupper := uppercase_eq h.characters
  have hsymbol : IsSymbol (Text.uppercase s) := by
    rw [hupper]
    refine ⟨?_, fun upper hmem => ?_⟩
    · rw [String.length_ofList, List.length_map, String.length_toList]
      exact h.length
    rw [String.toList_ofList] at hmem
    obtain ⟨c, hc, rfl⟩ := List.mem_map.1 hmem
    exact (uppercaseChar_of_isAlphanum (h.characters c hc)).2.1
  refine ⟨hsymbol, ?_⟩
  rw [uppercase_eq hsymbol.characters, hupper]
  congr 1
  simp only [String.toList_ofList, List.map_map]
  exact List.map_congr_left fun c hc => (uppercaseChar_of_isAlphanum (h.characters c hc)).2.2

end Text

/-! ## The two checks -/

namespace Field

variable {s : String}

/-- A user name is accepted exactly if it is one between its blanks, which are left out. -/
theorem username_eq_ok_iff {name : Username} :
    username s = .ok name ↔ Text.IsUsername (Text.trim s) ∧ name = ⟨Text.trim s⟩ := by
  have hcharacters : (Text.trim s).toList.all isUsernameCharacter = true ↔
      ∀ c ∈ (Text.trim s).toList, c.isAlphanum = true ∨ c = '_' ∨ c = '-' := by
    simp only [List.all_eq_true, Text.isUsernameCharacter_iff]
  unfold username minUsernameLength maxUsernameLength
  constructor
  · intro h
    dsimp only at h
    split at h
    · cases h
    split at h
    · cases h
    split at h
    · cases h
    · next hlength hall =>
      cases h
      exact ⟨⟨by omega, hcharacters.1 (by simpa using hall)⟩, rfl⟩
  · rintro ⟨h, rfl⟩
    have hlength := h.length
    dsimp only
    rw [Text.isEmpty_eq_false_iff.2 (by omega), hcharacters.2 h.characters, if_neg (by decide),
      if_neg (by omega), if_neg (by decide)]

/-- An asset symbol is accepted exactly if it is one between its blanks, which are left out; it is
written in uppercase. -/
theorem assetId_eq_ok_iff {symbol : AssetId} :
    assetId s = .ok symbol ↔
      Text.IsSymbol (Text.trim s) ∧ symbol = ⟨Text.uppercase (Text.trim s)⟩ := by
  have hcharacters : (Text.trim s).toList.all Char.isAlphanum = true ↔
      ∀ c ∈ (Text.trim s).toList, c.isAlphanum = true := by
    simp only [List.all_eq_true]
  have htext : ∀ h : Text.IsSymbol (Text.trim s),
      AssetId.ofText (Text.trim s) = ⟨Text.uppercase (Text.trim s)⟩ := by
    intro h
    rw [AssetId.ofText, h.trim_eq]
  unfold assetId maxAssetIdLength
  constructor
  · intro h
    dsimp only at h
    split at h
    · cases h
    split at h
    · cases h
    split at h
    · cases h
    · next hempty hsize hall =>
      obtain rfl := Except.ok.inj h
      have hall := hcharacters.1 (by simpa using hall)
      rw [Text.utf8ByteSize_eq hall] at hsize
      have hlength := Text.isEmpty_eq_false_iff.1 (by simpa using hempty)
      have hsymbol : Text.IsSymbol (Text.trim s) := ⟨⟨hlength, by omega⟩, hall⟩
      exact ⟨hsymbol, htext hsymbol⟩
  · rintro ⟨h, rfl⟩
    have hlength := h.length
    dsimp only
    rw [Text.isEmpty_eq_false_iff.2 (by omega), hcharacters.2 h.characters,
      Text.utf8ByteSize_eq h.characters, if_neg (by decide), if_neg (by omega), if_neg (by decide),
      htext h]

/-- A user name that has been accepted is accepted unchanged. -/
theorem username_of_username {name : Username} (h : username s = .ok name) :
    username name.text = .ok name := by
  obtain ⟨hname, rfl⟩ := username_eq_ok_iff.1 h
  rw [username_eq_ok_iff, hname.trim_eq]
  exact ⟨hname, rfl⟩

/-- An asset symbol that has been accepted is accepted unchanged. -/
theorem assetId_of_assetId {symbol : AssetId} (h : assetId s = .ok symbol) :
    assetId symbol.text = .ok symbol := by
  obtain ⟨hsymbol, rfl⟩ := assetId_eq_ok_iff.1 h
  obtain ⟨hupper, hsame⟩ := hsymbol.uppercase
  rw [assetId_eq_ok_iff, hupper.trim_eq, hsame]
  exact ⟨hupper, rfl⟩

end Field

end OrderDesk
