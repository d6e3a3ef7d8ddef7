import OrderDesk.Desk.Basic
import OrderDesk.Json.Reader
import OrderDesk.Proofs.Uppercase
import OrderDesk.Wire

/-!
# Assets and their symbols

An asset is in normal form if its symbol is in normal form and its category is that of its symbol.
Assets that are listed are in normal form. Assets that are read from a text are taken as the text
has them, so that they are in normal form only if the text says so. The desk keeps an asset under
its symbol as it is, while a symbol that is asked for is brought into normal form first: whatever
the spelling, it leads to the asset if the symbol of the asset is in normal form, and past it if it
is not.

## Main definitions

* `OrderDesk.Asset.IsNormal` — assets in normal form.
* `OrderDesk.Asset.IsMade` — the ways in which an asset is made.
* `OrderDesk.Asset.written?` — the symbol and the category that a text has for an asset.
* `OrderDesk.Text.Spells` — spellings of a symbol.

## Main results

* `OrderDesk.Field.assetId_of_spells` — all spellings of a symbol stand for its normal form.
* `OrderDesk.Asset.written?_of_read?` — an asset that is read is the one that is written.
* `OrderDesk.Asset.isNormal_iff_of_isMade` — which assets are in normal form, and which are found.
-/

set_option autoImplicit false

namespace OrderDesk

/-! ## Spellings -/

namespace Text

/-- A text **spells** a symbol if, between blanks, it has the characters of the symbol in any
case. -/
def Spells (s symbol : String) : Prop :=
  ∃ left word right : List Char, s.toList = left ++ word ++ right ∧
    (∀ c ∈ left, isBlank c = true) ∧ (∀ c ∈ right, isBlank c = true) ∧
    word.map Char.toUpper = symbol.toList.map Char.toUpper

/-- A character whose uppercase is a letter or digit is one itself. -/
theorem isAlphanum_of_toUpper {c : Char} (h : c.toUpper.isAlphanum = true) :
    c.isAlphanum = true := by
  by_cases hascii : c.toNat < 128
  · exact ascii_forall (P := fun c => c.toUpper.isAlphanum = true → c.isAlphanum = true)
      (by decide +kernel) hascii h
  · have hsame : c.toUpper = c := by
      refine dif_neg fun hlower => hascii ?_
      have hle : c.toNat ≤ 122 := UInt32.le_iff_toNat_le.1 hlower.2
      omega
    rwa [hsame] at h

/-- Blanks before other characters are left out. -/
theorem trimStart_append {blanks cs : List Char} (h : ∀ c ∈ blanks, isBlank c = true) :
    trimStart (blanks ++ cs) = trimStart cs :=
  List.dropWhile_append_of_pos h

/-- What stands between blanks is left over. -/
theorem trim_of_blanks {s : String} {left word right : List Char}
    (hs : s.toList = left ++ word ++ right) (hleft : ∀ c ∈ left, isBlank c = true)
    (hright : ∀ c ∈ right, isBlank c = true) (hword : ∀ c ∈ word, isBlank c = false) :
    trim s = String.ofList word := by
  have hreverse : ∀ c ∈ word.reverse, isBlank c = false := by simpa using hword
  have hend : trimEnd (word ++ right) = word := by
    rw [trimEnd, List.reverse_append, trimStart_append (by simpa using hright),
      trimStart_eq_self hreverse, List.reverse_reverse]
  rw [trim, hs, List.append_assoc, trimStart_append hleft]
  cases word with
  | nil =>
    have hnone : trimStart right = [] := by simpa [trimStart] using hright
    rw [List.nil_append, hnone]
    rfl
  | cons c word =>
    have hstart : trimStart (c :: word ++ right) = c :: word ++ right :=
      trimStart_eq_self_iff.2 (by simpa using hword c List.mem_cons_self)
    rw [hstart, hend]

/-- A spelling of a symbol has letters and digits between its blanks, and its uppercase is that of
the symbol. -/
theorem IsSymbol.of_spells {s symbol : String} (hsymbol : IsSymbol symbol)
    (hspells : Spells s symbol) :
    IsSymbol (trim s) ∧ Text.uppercase (trim s) = Text.uppercase symbol := by
  obtain ⟨left, word, right, hs, hleft, hright, hword⟩ := hspells
  have hcharacters : ∀ c ∈ word, c.isAlphanum = true := by
    intro c hc
    have hupper : c.toUpper ∈ symbol.toList.map Char.toUpper :=
      hword ▸ List.mem_map_of_mem hc
    obtain ⟨d, hd, hdc⟩ := List.mem_map.1 hupper
    have hd := (uppercaseChar_of_isAlphanum (hsymbol.characters d hd)).2.1
    exact isAlphanum_of_toUpper (hdc ▸ hd)
  have htrim : trim s = String.ofList word :=
    trim_of_blanks hs hleft hright fun c hc =>
      isBlank_eq_false (isUsernameCharacter_iff.2 (.inl (hcharacters c hc)))
  have hlength : word.length = symbol.length := by
    simpa [String.length_toList] using congrArg List.length hword
  rw [htrim]
  refine ⟨⟨by simpa [hlength] using hsymbol.length, by simpa using hcharacters⟩, ?_⟩
  rw [uppercase_eq (by simpa using hcharacters), uppercase_eq hsymbol.characters,
    String.toList_ofList, hword]

end Text

/-- **All spellings** of a symbol stand for its normal form. -/
theorem Field.assetId_of_spells {s symbol : String} (hsymbol : Text.IsSymbol symbol)
    (hspells : Text.Spells s symbol) : assetId s = .ok (AssetId.ofText symbol) := by
  obtain ⟨htrimmed, hupper⟩ := hsymbol.of_spells hspells
  rw [assetId_eq_ok_iff, AssetId.ofText, hsymbol.trim_eq, hupper]
  exact ⟨htrimmed, rfl⟩

/-! ## Making assets -/

/-- Categories of the same name are the same. -/
theorem AssetCategory.name_inj {a b : AssetCategory} (h : a.name = b.name) : a = b :=
  Option.some.inj (by rw [← ofName?_name a, h, ofName?_name b])

namespace Asset

/-- An asset is in **normal form** if its symbol is and its category is that of its symbol. -/
structure IsNormal (a : Asset) : Prop where
  assetId : AssetId.ofText a.assetId.text = a.assetId
  category : a.category = .ofSymbol a.assetId.text

/-- The asset that a text is read as. -/
def read? (text : String) : Option Asset :=
  (Json.parse? text).bind ofJson?

/-- The symbol and the name of the category that a text has for an asset. -/
def written? (text : String) : Option (String × String) := do
  match ← Json.fields? fieldNames 0 (← Json.parse? text) with
  | [assetId, _, _, _, category] =>
    return (← Json.required assetId Json.text?, ← Json.required category Json.variant?)
  | _ => none

/-- How an asset **is made**: it is listed under a symbol, or read from a text, and may be
deactivated. The text is kept along, if there is one. -/
inductive IsMade : Option String → Asset → Prop
  | listed (symbol name : String) (price : Decimal) : IsMade none (listed symbol name price)
  | read {text : String} {a : Asset} (h : read? text = some a) : IsMade (some text) a
  | deactivated {origin : Option String} {a : Asset} (h : IsMade origin a) :
      IsMade origin a.deactivated

/-- A category that is read is the one of the name that is written. -/
theorem name_of_category? {json : Json} {category : AssetCategory}
    (h : Wire.category? json = some category) : Json.variant? json = some category.name := by
  obtain ⟨name, hname, hcategory⟩ := Option.bind_eq_some_iff.1 h
  have hname' := List.find?_some hcategory
  rw [hname, eq_of_beq hname']

/-- **An asset is read as it is written**, symbol and category alike. -/
theorem written?_of_read? {text : String} {a : Asset} (h : read? text = some a) :
    written? text = some (a.assetId.text, a.category.name) := by
  obtain ⟨json, hparse, hread⟩ := Option.bind_eq_some_iff.1 h
  obtain ⟨fields, hfields, hread⟩ := Option.bind_eq_some_iff.1 hread
  split at hread
  · next assetId name price isActive category =>
    simp only [Option.bind_eq_bind, Option.bind_eq_some_iff, Option.pure_def,
      Option.some.injEq] at hread
    obtain ⟨assetIdText, hassetId, -, -, -, -, -, -, categoryRead, hcategory, rfl⟩ := hread
    obtain ⟨json, rfl, hcategory⟩ := Option.bind_eq_some_iff.1 hcategory
    have hname : Json.required (some json) Json.variant? = some categoryRead.name :=
      name_of_category? hcategory
    simp [written?, hparse, hfields, hassetId, hname]
  · cases hread

/-- A listed asset is in normal form. -/
theorem isNormal_listed (symbol name : String) (price : Decimal) :
    (listed symbol name price).IsNormal := by
  unfold listed
  constructor <;> dsimp only
  exact AssetId.ofText_text_ofText symbol

/-- A deactivated asset is in normal form if it has been so before. -/
theorem isNormal_deactivated {a : Asset} : a.deactivated.IsNormal ↔ a.IsNormal :=
  ⟨fun h => ⟨h.assetId, h.category⟩, fun h => ⟨h.assetId, h.category⟩⟩

/-- **Which assets are in normal form**: those that go back to no text, and those whose text has a
symbol in normal form together with its category.

**Proof sketch.** Induction on how the asset is made. An asset that is read has the symbol and the
category of its text, and deactivating changes neither of them. -/
theorem IsMade.isNormal_iff {origin : Option String} {a : Asset} (h : IsMade origin a) :
    a.IsNormal ↔ ∀ text ∈ origin, ∃ symbol category,
      written? text = some (symbol, category) ∧ AssetId.ofText symbol = ⟨symbol⟩ ∧
        category = (AssetCategory.ofSymbol symbol).name := by
  induction h with
  | listed symbol name price => simpa using isNormal_listed symbol name price
  | @read text a h =>
    have hwritten := written?_of_read? h
    constructor
    · rintro ⟨hassetId, hcategory⟩ _ ⟨⟩
      exact ⟨_, _, hwritten, hassetId, congrArg AssetCategory.name hcategory⟩
    · intro hnormal
      obtain ⟨symbol, category, hsame, hassetId, hcategory⟩ := hnormal text rfl
      cases hwritten.symm.trans hsame
      exact ⟨hassetId, AssetCategory.name_inj hcategory⟩
  | deactivated _ ih => exact isNormal_deactivated.trans ih

/-! ## Finding assets -/

/-- **Which assets are found**: an asset that has just been put on the desk is found under all
spellings of its symbol if that is in normal form. Otherwise what is found is what has been there
under the normal form. -/
theorem findAsset_of_spells {a : Asset} {s : String} (hsymbol : Text.IsSymbol a.assetId.text)
    (hspells : Text.Spells s a.assetId.text) (d : Desk) (m : Moment) :
    ∃ key, Field.assetId s = .ok key ∧
      (Desk.answer m (.findAsset key) (d.putAsset a)).1 =
        .ok (if AssetId.ofText a.assetId.text = a.assetId then some a else d.assets.get? key) := by
  refine ⟨_, Field.assetId_of_spells hsymbol hspells, ?_⟩
  change Except.ok ((d.assets.put a.assetId a).get? _) = _
  simp only [Table.get?_put, eq_comm]

/-- **Assets as they are made and as they are found.** An asset that has been made is in normal form
exactly if the text that it goes back to, if there is one, has a symbol in normal form together with
its category. Once it is on the desk it is found under all spellings of its symbol if that is in
normal form; otherwise a spelling leads to what has been there before under the normal form.

**Proof sketch.** Listing brings the symbol into its normal form, which is its own normal form, and
reading takes symbol and category from the text. All spellings have one normal form, and it is this
that the desk is asked for. -/
theorem IsMade.normal_and_found {origin : Option String} {a : Asset} (h : IsMade origin a) :
    (a.IsNormal ↔ ∀ text ∈ origin, ∃ symbol category,
      written? text = some (symbol, category) ∧ AssetId.ofText symbol = ⟨symbol⟩ ∧
        category = (AssetCategory.ofSymbol symbol).name) ∧
    ∀ (s : String) (d : Desk) (m : Moment),
      Text.IsSymbol a.assetId.text → Text.Spells s a.assetId.text →
      ∃ key, Field.assetId s = .ok key ∧
        (Desk.answer m (.findAsset key) (d.putAsset a)).1 =
          .ok (if AssetId.ofText a.assetId.text = a.assetId then some a else d.assets.get? key) :=
  ⟨h.isNormal_iff, fun _ d m hsymbol hspells => findAsset_of_spells hsymbol hspells d m⟩

/-- An asset is listed under a symbol with a character whose uppercase has two, and deactivated. It
is found under its symbol between wide blanks, in mixed case. -/
theorem IsMade.normal_and_found_of_long_uppercase :
    let a := (Asset.listed " so\u00df" "Example" 1.50).deactivated
    let s := "\u3000soSS\n"
    IsMade none a ∧ a.assetId.text = "SOSS" ∧ a.IsNormal ∧ Text.IsSymbol a.assetId.text ∧
      Text.Spells s a.assetId.text ∧
      ∀ m, ∃ key, Field.assetId s = .ok key ∧
        (Desk.answer m (.findAsset key) (Desk.empty.putAsset a)).1 = .ok (some a) := by
  intro a s
  have hmade : IsMade none a := IsMade.deactivated (.listed " so\u00df" "Example" 1.50)
  have htext : a.assetId.text = "SOSS" := by decide +kernel
  have hsymbol : Text.IsSymbol "SOSS" := ⟨by decide, List.all_eq_true.1 (by decide)⟩
  have hspells : Text.Spells s "SOSS" :=
    ⟨['\u3000'], ['s', 'o', 'S', 'S'], ['\n'], by decide, List.all_eq_true.1 (by decide),
      List.all_eq_true.1 (by decide), by decide⟩
  rw [← htext] at hsymbol hspells
  obtain ⟨hnormal, hfound⟩ := hmade.normal_and_found
  have hnormal : a.IsNormal := hnormal.2 nofun
  refine ⟨hmade, htext, hnormal, hsymbol, hspells, fun m => ?_⟩
  obtain ⟨key, hkey, hanswer⟩ := hfound s .empty m hsymbol hspells
  rw [if_pos hnormal.assetId] at hanswer
  exact ⟨key, hkey, hanswer⟩

/-- The asset of this text is not in normal form, and once it is on the desk it is not found under
its own symbol. -/
theorem not_isNormal_of_read :
    let text := "\x7b\"asset_id\": \"btc\", \"name\": \"Bitcoin\", \"price\": \"45000\", " ++
      "\"is_active\": true, \"category\": \"altcoin\"\x7d"
    ∃ a, IsMade (some text) a ∧ a.assetId = ⟨"btc"⟩ ∧ a.category = .altcoin ∧ ¬a.IsNormal ∧
      Text.IsSymbol "btc" ∧ Text.Spells "btc" "btc" ∧ Field.assetId "btc" = .ok ⟨"BTC"⟩ ∧
      ∀ m, (Desk.answer m (.findAsset ⟨"BTC"⟩) (Desk.empty.putAsset a)).1 = .ok none := by
  intro text
  let a : Asset :=
    { assetId := ⟨"btc"⟩, name := "Bitcoin", price := 45000, isActive := true
      category := .altcoin }
  have hread : read? text = some a := by decide +kernel
  have hnormal : ¬a.IsNormal := fun h => absurd h.assetId (by decide +kernel)
  have hsymbol : Text.IsSymbol "btc" := ⟨by decide, List.all_eq_true.1 (by decide)⟩
  have hspells : Text.Spells "btc" "btc" := ⟨[], ['b', 't', 'c'], [], rfl, nofun, nofun, rfl⟩
  exact ⟨a, .read hread, rfl, rfl, hnormal, hsymbol, hspells, by decide +kernel, fun m => rfl⟩

end Asset

end OrderDesk
