import OrderDesk.Identifier

/-!
# Users

A user is a customer, who acts on own orders only, or an administrator.
-/

set_option autoImplicit false

namespace OrderDesk

/-- What a user may do. -/
inductive Role where
  /-- Acts on own orders only. -/
  | customer
  /-- Acts on the orders of every user. -/
  | admin
deriving DecidableEq, Inhabited

namespace Role

/-- Both roles. -/
def all : List Role :=
  [customer, admin]

/-- The wire name. -/
def name : Role → String
  | customer => "customer"
  | admin => "admin"

/-- The role of a wire name. -/
def ofName? (s : String) : Option Role :=
  all.find? (·.name == s)

/-- The role of a stored text in any ASCII case. Whatever is not an administrator is a customer. -/
def ofText (s : String) : Role :=
  if Text.asciiLowercase (Text.trim s) = "admin" then admin else customer

end Role

/-- A user as the order desk sees one. -/
structure User where
  username : Username
  role : Role
  /-- Users who are not active may not act at all. -/
  isActive : Bool
deriving DecidableEq, Inhabited

/-- The user is an administrator. -/
def User.isAdmin (u : User) : Bool :=
  u.role == .admin

/-- A wire name is read back as its role. -/
theorem Role.ofName?_name (r : Role) : Role.ofName? r.name = some r := by
  cases r <;> decide

example : Role.ofText " Admin " = .admin := by decide +kernel

end OrderDesk
