import OrderDesk.Decimal.Basic
import OrderDesk.Identifier

/-!
# Assets

What is traded: a symbol, a display name, a market price and a category that follows from the
symbol.
-/

set_option autoImplicit false

namespace OrderDesk

/-- The category of an asset. -/
inductive AssetCategory where
  | major
  | stablecoin
  | altcoin
deriving DecidableEq, Inhabited

namespace AssetCategory

/-- All categories. -/
def all : List AssetCategory :=
  [major, stablecoin, altcoin]

/-- The wire name. -/
def name : AssetCategory → String
  | major => "major"
  | stablecoin => "stablecoin"
  | altcoin => "altcoin"

/-- The category of a wire name. -/
def ofName? (s : String) : Option AssetCategory :=
  all.find? (·.name == s)

/-- The symbols of the major assets. -/
def majorSymbols : List String :=
  ["BTC", "ETH"]

/-- The symbols of the stablecoins. -/
def stablecoinSymbols : List String :=
  ["USDT", "USDC", "DAI"]

/-- The category of a symbol in any ASCII case; symbols that are not listed are altcoins. -/
def ofSymbol (s : String) : AssetCategory :=
  let symbol := Text.asciiUppercase (Text.trim s)
  if symbol ∈ majorSymbols then major
  else if symbol ∈ stablecoinSymbols then stablecoin
  else altcoin

end AssetCategory

/-- An asset that can be bought and sold. -/
structure Asset where
  assetId : AssetId
  name : String
  /-- The market price of the moment. -/
  price : Decimal
  /-- Assets that are not active are not traded. -/
  isActive : Bool
  category : AssetCategory
deriving DecidableEq

/-- An active asset; the category follows from the symbol. -/
def Asset.listed (symbol name : String) (price : Decimal) : Asset :=
  let assetId := AssetId.ofText symbol
  { assetId, name, price, isActive := true, category := .ofSymbol assetId.text }

/-- The same asset, no longer traded. -/
def Asset.deactivated (a : Asset) : Asset :=
  { a with isActive := false }

/-- A wire name is read back as its category. -/
theorem AssetCategory.ofName?_name (c : AssetCategory) : AssetCategory.ofName? c.name = some c := by
  cases c <;> decide

example : AssetCategory.ofSymbol " usdc " = .stablecoin := by decide +kernel

end OrderDesk
