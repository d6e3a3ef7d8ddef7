import Mathlib.Data.List.Chain
import OrderDesk.Order.Basic

/-!
# Versions of an order

A stored order changes in two fields only: its status and the time of its last update. Every change
of status follows the table of moves, and the table never leads back.

## Main definitions

* `OrderDesk.Order.IsNew` — an order is what its request asks for.
* `OrderDesk.Order.SameTerms` — two orders agree in everything but status and last update.
* `OrderDesk.Order.Succeeds` — an order is the next version of another one.
* `OrderDesk.Status.rank` — how far a status is along the table.

## Main results

* `OrderDesk.Status.rank_lt_of_canMoveTo` — every move leads to a higher rank.
* `OrderDesk.Order.eq_of_succeeds_of_status_eq` — in a chain of versions a status names its version.
-/

set_option autoImplicit false

namespace OrderDesk

/-! ## Statuses -/

namespace Status

/-- How far a status is along the table of moves. -/
def rank : Status → Nat
  | pending | queued => 0
  | confirmed => 1
  | processing => 2
  | completed | cancelled | failed | expired => 3

/-- Every move leads to a higher **rank**: the table has no way back. -/
theorem rank_lt_of_canMoveTo {s target : Status} (h : s.canMoveTo target = true) :
    s.rank < target.rank := by
  cases s <;> cases target <;> revert h <;> decide

/-- Nothing moves out of a terminal status. -/
theorem isTerminal_eq_false_of_canMoveTo {s target : Status} (h : s.canMoveTo target = true) :
    s.isTerminal = false := by
  cases s <;> first | rfl | exact absurd h (by simp [canMoveTo, targets])

/-- An authorized move is a move of the table. -/
theorem canMoveTo_of_authorize {s target : Status} {byUser bySystem : Bool} {u : Unit}
    (h : s.authorize target byUser bySystem = .ok u) : s.canMoveTo target = true := by
  unfold authorize at h
  by_contra hmove
  rw [if_pos (by simpa using hmove)] at h
  cases h

end Status

namespace Order

/-! ## The first version -/

/-- The **first version** of an order is what its request asks for, at a price and a time. -/
structure IsNew (request : OrderRequest) (price : Decimal) (now idTime : Instant) (token : Uuid)
    (o : Order) : Prop where
  orderId : o.orderId = OrderId.standard idTime token (some request.username.text)
  username : o.username = request.username
  orderType : o.orderType = request.orderType
  assetId : o.assetId = request.assetId
  quantity : o.quantity = request.quantity
  orderPrice : o.orderPrice = request.orderPrice
  totalAmount : Rules.notional request.quantity price = .ok o.totalAmount
  status : o.status = .pending
  expiresAt : o.expiresAt = request.expiresAt
  createdAt : o.createdAt = now
  updatedAt : o.updatedAt = now

/-- An order that is placed is what its request asks for. -/
theorem isNew_of_place {request : OrderRequest} {price : Decimal} {now idTime : Instant}
    {token : Uuid} {o : Order} (h : place request price now idTime token = .ok o) :
    IsNew request price now idTime token o := by
  unfold place at h
  dsimp only at h
  split at h
  · split at h
    · cases h
    · next hvalue =>
      cases h
      exact ⟨rfl, rfl, rfl, rfl, rfl, rfl, hvalue, rfl, rfl, rfl, rfl⟩
  · cases h

/-! ## Two versions -/

/-- Two orders have the **same terms**: they agree in everything but status and last update. -/
structure SameTerms (a b : Order) : Prop where
  orderId : b.orderId = a.orderId
  username : b.username = a.username
  orderType : b.orderType = a.orderType
  assetId : b.assetId = a.assetId
  quantity : b.quantity = a.quantity
  orderPrice : b.orderPrice = a.orderPrice
  totalAmount : b.totalAmount = a.totalAmount
  expiresAt : b.expiresAt = a.expiresAt
  createdAt : b.createdAt = a.createdAt

/-- An order has its own terms. -/
theorem SameTerms.refl (a : Order) : SameTerms a a :=
  ⟨rfl, rfl, rfl, rfl, rfl, rfl, rfl, rfl, rfl⟩

/-- The terms stay the same from one version to a later one. -/
theorem SameTerms.trans {a b c : Order} (hab : SameTerms a b) (hbc : SameTerms b c) :
    SameTerms a c where
  orderId := hbc.orderId.trans hab.orderId
  username := hbc.username.trans hab.username
  orderType := hbc.orderType.trans hab.orderType
  assetId := hbc.assetId.trans hab.assetId
  quantity := hbc.quantity.trans hab.quantity
  orderPrice := hbc.orderPrice.trans hab.orderPrice
  totalAmount := hbc.totalAmount.trans hab.totalAmount
  expiresAt := hbc.expiresAt.trans hab.expiresAt
  createdAt := hbc.createdAt.trans hab.createdAt

/-- Another status leaves the terms as they are. -/
theorem sameTerms_withStatus (a : Order) (status : Status) (now : Instant) :
    SameTerms a (a.withStatus status now) :=
  ⟨rfl, rfl, rfl, rfl, rfl, rfl, rfl, rfl, rfl⟩

/-- Orders on the same terms are on the same side. -/
theorem SameTerms.side {a b : Order} (h : SameTerms a b) : b.side = a.side := by
  unfold Order.side
  rw [h.orderType]

/-- An order is the **next version** of another one: on the same terms, after a move of the
table. -/
structure Succeeds (a b : Order) : Prop where
  terms : SameTerms a b
  move : a.status.canMoveTo b.status = true

/-- A moved order is the next version. -/
theorem succeeds_withStatus {a : Order} {target : Status} (now : Instant)
    (h : a.status.canMoveTo target = true) : Succeeds a (a.withStatus target now) :=
  ⟨sameTerms_withStatus a target now, h⟩

/-- An authorized change is a move of the table and changes nothing else. -/
theorem eq_withStatus_of_moveTo {a b : Order} {target : Status} {byUser bySystem : Bool}
    {now : Instant} (h : a.moveTo target byUser bySystem now = .ok b) :
    a.status.canMoveTo target = true ∧ b = a.withStatus target now := by
  unfold moveTo at h
  split at h
  · next hauth => exact ⟨Status.canMoveTo_of_authorize hauth, (Except.ok.inj h).symm⟩
  · cases h

/-- The next version has a higher rank. -/
theorem Succeeds.rank_lt {a b : Order} (h : Succeeds a b) : a.status.rank < b.status.rank :=
  Status.rank_lt_of_canMoveTo h.move

/-! ## Chains of versions -/

/-- In a chain of versions every later one has a higher rank. -/
theorem pairwise_rank_lt {versions : List Order} (h : versions.IsChain Succeeds) :
    versions.Pairwise fun a b => a.status.rank < b.status.rank := by
  have hlt : versions.IsChain fun a b : Order => a.status.rank < b.status.rank :=
    h.imp fun _ _ hs => hs.rank_lt
  have : Trans (fun a b : Order => a.status.rank < b.status.rank)
      (fun a b : Order => a.status.rank < b.status.rank)
      (fun a b : Order => a.status.rank < b.status.rank) := ⟨Nat.lt_trans⟩
  exact List.isChain_iff_pairwise.1 hlt

/-- In a chain of versions all are on the same terms. -/
theorem pairwise_sameTerms {versions : List Order} (h : versions.IsChain Succeeds) :
    versions.Pairwise SameTerms := by
  have hterms : versions.IsChain SameTerms := h.imp fun _ _ hs => hs.terms
  have : Trans SameTerms SameTerms SameTerms := ⟨SameTerms.trans⟩
  exact List.isChain_iff_pairwise.1 hterms

/-- In a chain of versions a status names its version: the one that has the status of the last one
is the last one. -/
theorem eq_of_succeeds_of_status_eq {versions : List Order} (h : versions.IsChain Succeeds)
    {a last : Order} (ha : a ∈ versions) (hlast : versions.getLast? = some last)
    (hstatus : a.status = last.status) : a = last := by
  obtain ⟨before, rfl⟩ := List.getLast?_eq_some_iff.1 hlast
  rcases List.mem_append.1 ha with hb | hl
  · have hlt := (List.pairwise_append.1 (pairwise_rank_lt h)).2.2 a hb last (by simp)
    rw [hstatus] at hlt
    exact absurd hlt (Nat.lt_irrefl _)
  · exact List.mem_singleton.1 hl

end Order

end OrderDesk
