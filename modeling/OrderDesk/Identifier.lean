import OrderDesk.Text.Blank
import OrderDesk.Text.Uppercase

/-!
# Identifiers

Order IDs, login names and asset symbols are texts that are not to be mixed up.

## Main definitions

* `OrderDesk.OrderId`, `OrderDesk.Username`: kept as given.
* `OrderDesk.AssetId`: an asset symbol; `OrderDesk.AssetId.ofText` trims it and writes it in
  uppercase.
-/

set_option autoImplicit false

namespace OrderDesk

/-- The identifier of an order. -/
structure OrderId where
  text : String
deriving DecidableEq, Inhabited

/-- The login name of the owner of an order or a balance; case matters. -/
structure Username where
  text : String
deriving DecidableEq, Inhabited

/-- The symbol of a tradeable asset. -/
structure AssetId where
  text : String
deriving DecidableEq, Inhabited

/-- The normal form of a symbol: no blanks at its ends, in uppercase. -/
def AssetId.ofText (s : String) : AssetId :=
  ⟨Text.uppercase (Text.trim s)⟩

example : AssetId.ofText " btc " = ⟨"BTC"⟩ := by decide +kernel

end OrderDesk
