/-!
# Order types and sides

An order buys or sells, at the market price or at a limit.
-/

set_option autoImplicit false

namespace OrderDesk

/-- Whether an order buys or sells. -/
inductive Side where
  | buy
  | sell
deriving DecidableEq, Inhabited

/-- Whether an order buys or sells, and at which price. -/
inductive OrderType where
  | marketBuy
  | marketSell
  | limitBuy
  | limitSell
deriving DecidableEq, Inhabited

namespace Side

/-- Both sides. -/
def all : List Side :=
  [buy, sell]

/-- The wire name. -/
def name : Side → String
  | buy => "BUY"
  | sell => "SELL"

/-- The side of a wire name. -/
def ofName? (s : String) : Option Side :=
  all.find? (·.name == s)

end Side

namespace OrderType

/-- All order types. -/
def all : List OrderType :=
  [marketBuy, marketSell, limitBuy, limitSell]

/-- The wire name. -/
def name : OrderType → String
  | marketBuy => "MARKET_BUY"
  | marketSell => "MARKET_SELL"
  | limitBuy => "LIMIT_BUY"
  | limitSell => "LIMIT_SELL"

/-- The order type of a wire name. -/
def ofName? (s : String) : Option OrderType :=
  all.find? (·.name == s)

/-- A limit order names its price. -/
def isLimit : OrderType → Bool
  | limitBuy | limitSell => true
  | marketBuy | marketSell => false

/-- A market order takes the price of the moment. -/
def isMarket : OrderType → Bool
  | marketBuy | marketSell => true
  | limitBuy | limitSell => false

/-- The side of an order of this type. -/
def side : OrderType → Side
  | marketBuy | limitBuy => .buy
  | marketSell | limitSell => .sell

/-- Whether an order of this type buys. -/
def isBuy (t : OrderType) : Bool :=
  t.side == .buy

end OrderType

/-- A wire name is read back as its order type. -/
theorem OrderType.ofName?_name (t : OrderType) : OrderType.ofName? t.name = some t := by
  cases t <;> decide

/-- A wire name is read back as its side. -/
theorem Side.ofName?_name (s : Side) : Side.ofName? s.name = some s := by
  cases s <;> decide

end OrderDesk
