import OrderDesk.Config.Load
import OrderDesk.Proofs.Reading

/-!
# The newest orders of a user

A listing is the newest part of a user's orders: as many as are asked for, strictly in order, and
whatever is left out is older than all that is shown. Which orders these are does not depend on the
rows in which the orders are kept, and a shorter listing is the beginning of a longer one. Where
no limit is asked for, the one of the configuration holds; it is one that may be asked for.

## Main definitions

* `OrderDesk.Order.IsNewer` — the strict order of listings.
* `OrderDesk.Desk.IsNewest` — the newest orders of a user, told without sorting.

## Main results

* `OrderDesk.Desk.isNewest_ordersOf` — a listing shows the newest orders.
* `OrderDesk.Desk.ordersOf_perm` — the rows do not matter.
* `OrderDesk.Call.program_orders_default` — no limit is the limit of the configuration.
-/

set_option autoImplicit false

namespace OrderDesk

/-! ## Strictly newer -/

namespace Order

variable {a b : Order}

/-- A later order is newer, and of two orders of one time the one with the larger order ID. -/
def IsNewer (a b : Order) : Prop :=
  b.createdAt < a.createdAt ∨ (a.createdAt = b.createdAt ∧ b.orderId.text < a.orderId.text)

/-- Of two orders with order IDs of their own, the one that comes before is newer. -/
theorem isNewer_of_comesBefore (h : Desk.comesBefore a b = true) (hid : a.orderId ≠ b.orderId) :
    a.IsNewer b := by
  rcases Desk.comesBefore_iff.1 h with hlater | ⟨htime, htext⟩
  · exact .inl hlater
  · refine .inr ⟨htime, ?_⟩
    by_contra hless
    exact hid (congrArg OrderId.mk (String.le_antisymm (String.not_lt.1 hless) htext))

/-- An order of a user, in a status if one is asked for. -/
def BelongsTo (owner : Username) (status : Option Status) (o : Order) : Prop :=
  o.username = owner ∧ ∀ s ∈ status, o.status = s

instance (owner : Username) (status : Option Status) : DecidablePred (BelongsTo owner status) :=
  fun o => inferInstanceAs (Decidable (o.username = owner ∧ ∀ s ∈ status, o.status = s))

end Order

namespace Desk

variable {d e : Desk} {owner : Username} {status : Option Status} {limit : Option Nat}

/-! ## The newest orders -/

/-- The newest orders of a user, up to a limit: stored orders of the user, each newer than the next,
as many as there are within the limit, and all newer than what is left out. -/
structure IsNewest (d : Desk) (owner : Username) (status : Option Status) (limit : Option Nat)
    (listed : List Order) : Prop where
  stored : ∀ o ∈ listed, d.orders.get? o.orderId = some o ∧ o.BelongsTo owner status
  descending : listed.Pairwise Order.IsNewer
  length : listed.length =
    let n := d.orders.values.countP fun o => o.BelongsTo owner status
    limit.elim n (min · n)
  omitted : ∀ o, d.orders.get? o.orderId = some o → o.BelongsTo owner status → o ∉ listed →
    ∀ shown ∈ listed, shown.IsNewer o

/-- A listing without a limit has the orders that are asked for. -/
theorem ordersOf_none (d : Desk) (owner : Username) (status : Option Status) :
    d.ordersOf owner status none =
      newestFirst (d.orders.values.filter fun o => o.BelongsTo owner status) := by
  refine congrArg newestFirst (List.filter_congr fun o _ => ?_)
  rw [Bool.eq_iff_iff]
  cases status <;> simp [Order.BelongsTo]

/-- A limit leaves the beginning of a listing. -/
theorem ordersOf_some (d : Desk) (owner : Username) (status : Option Status) (n : Nat) :
    d.ordersOf owner status (some n) = (d.ordersOf owner status none).take n :=
  rfl

/-- A listing is the beginning of the listing without a limit. -/
theorem ordersOf_eq_take (d : Desk) (owner : Username) (status : Option Status)
    (limit : Option Nat) : ∃ rest, d.ordersOf owner status none =
      d.ordersOf owner status limit ++ rest := by
  cases limit with
  | none => exact ⟨[], (List.append_nil _).symm⟩
  | some n => exact ⟨_, (List.take_append_drop n _).symm⟩

/-- An order is listed without a limit exactly if it is stored and asked for. -/
theorem mem_ordersOf_none_iff (hd : d.orders.Keyed fun o => o.orderId) {o : Order} :
    o ∈ d.ordersOf owner status none ↔
      d.orders.get? o.orderId = some o ∧ o.BelongsTo owner status := by
  rw [ordersOf_none, (newestFirst_perm _).mem_iff, List.mem_filter, mem_values_orders_iff hd,
    decide_eq_true_eq]

/-- Each order of a listing without a limit is newer than the next. -/
theorem pairwise_ordersOf_none (hd : d.orders.Keyed fun o => o.orderId) :
    (d.ordersOf owner status none).Pairwise Order.IsNewer := by
  have hnodup : (d.ordersOf owner status none).Nodup := by
    rw [ordersOf_none, (newestFirst_perm _).nodup_iff]
    exact hd.nodup_values.filter _
  have hsorted : (d.ordersOf owner status none).Pairwise fun a b => comesBefore a b = true :=
    pairwise_newestFirst _
  refine (hsorted.and hnodup).imp_of_mem fun ha hb hab => ?_
  apply Order.isNewer_of_comesBefore hab.1
  -- two orders with one order ID are stored under one key
  intro hid
  have ha := ((mem_ordersOf_none_iff hd).1 ha).1
  have hb := ((mem_ordersOf_none_iff hd).1 hb).1
  rw [hid, hb] at ha
  exact hab.2 (Option.some.inj ha).symm

/-- **A listing shows the newest orders.** -/
theorem isNewest_ordersOf (hd : d.orders.Keyed fun o => o.orderId) (owner : Username)
    (status : Option Status) (limit : Option Nat) :
    d.IsNewest owner status limit (d.ordersOf owner status limit) := by
  obtain ⟨rest, hrest⟩ := ordersOf_eq_take d owner status limit
  have hpairwise : (d.ordersOf owner status none).Pairwise Order.IsNewer :=
    pairwise_ordersOf_none hd
  rw [hrest, List.pairwise_append] at hpairwise
  obtain ⟨hlisted, -, hacross⟩ := hpairwise
  constructor
  · intro o ho
    exact (mem_ordersOf_none_iff hd).1 (hrest ▸ List.mem_append_left rest ho)
  · exact hlisted
  · have hall : (d.ordersOf owner status none).length =
        d.orders.values.countP fun o => o.BelongsTo owner status := by
      rw [ordersOf_none, (newestFirst_perm _).length_eq, List.countP_eq_length_filter]
    cases limit with
    | none => exact hall
    | some n => rw [ordersOf_some, List.length_take, hall]; rfl
  · intro o hstored hbelongs hnot shown hshown
    have ho := (mem_ordersOf_none_iff hd).2 ⟨hstored, hbelongs⟩
    rw [hrest, List.mem_append] at ho
    exact hacross shown hshown o (ho.resolve_left hnot)

/-- A shorter listing is the beginning of a longer one. -/
theorem ordersOf_take (d : Desk) (owner : Username) (status : Option Status) {k n : Nat}
    (h : k ≤ n) :
    d.ordersOf owner status (some k) = (d.ordersOf owner status (some n)).take k := by
  rw [ordersOf_some, ordersOf_some, List.take_take, Nat.min_eq_left h]

/-- **The rows do not matter.** Two desks that keep the same orders in different rows list them in
the same way. -/
theorem ordersOf_perm (hd : d.orders.Keyed fun o => o.orderId)
    (hrows : e.orders.rows.Perm d.orders.rows) (owner : Username) (status : Option Status)
    (limit : Option Nat) : e.ordersOf owner status limit = d.ordersOf owner status limit := by
  have hsame : ∀ orderId order,
      e.orders.get? orderId = some order ↔ d.orders.get? orderId = some order := by
    intro orderId order
    unfold Table.get?
    rw [Table.find?_eq_some_iff e.orders.nodup_keys, Table.find?_eq_some_iff d.orders.nodup_keys,
      hrows.mem_iff]
  have he : e.orders.Keyed fun o => o.orderId := fun orderId order hget =>
    hd orderId order ((hsame orderId order).1 hget)
  exact ordersOf_congr he hd (fun orderId order _ => hsame orderId order) status limit

end Desk

/-! ## The limit of the configuration -/

namespace Config

variable {environment : Interpolation.Environment} {text : String} {config : Config}

/-- The limit of a configuration that is taken is one that may be asked for. -/
theorem listLimit_of_ofText (h : ofText environment text = .ok config) :
    1 ≤ config.defaultListLimit ∧ config.defaultListLimit ≤ 100 := by
  have hvalid : config.validate = .ok () := by
    unfold ofText at h
    split at h
    · cases h
    split at h
    · cases h
      assumption
    · cases h
  unfold validate at hvalid
  split at hvalid
  · cases hvalid
  split at hvalid
  · cases hvalid
  split at hvalid
  · cases hvalid
  rename_i hrange
  simp only [Service.minListLimit, Service.maxListLimit] at hrange
  omega

end Config

namespace Call

/-- **No limit is the limit of the configuration.** Whoever asks for no limit is served by the same
steps as somebody who asks for the default one. -/
theorem program_orders_default {defaultLimit : Nat} (hmin : 1 ≤ defaultLimit)
    (hmax : defaultLimit ≤ 100) (query : ListingQuery) :
    (orders { query with limit := none }).program defaultLimit =
      (orders { query with limit := some (defaultLimit : Int) }).program defaultLimit := by
  have hallowed : Service.listLimitAllowed (some (defaultLimit : Int)) = true := by
    have hrange : (1 : Int) ≤ defaultLimit ∧ (defaultLimit : Int) ≤ 100 := by omega
    simpa [Service.listLimitAllowed, Service.minListLimit, Service.maxListLimit] using hrange
  have hcheck : Service.checkListing query.username none =
      Service.checkListing query.username (some (defaultLimit : Int)) := by
    simp only [Service.checkListing, hallowed]
    rfl
  have hservice : Service.orders defaultLimit { query with limit := none } =
      Service.orders defaultLimit { query with limit := some (defaultLimit : Int) } := by
    simp only [Service.orders, hcheck]
    rfl
  simp only [program, service, hservice]

/-- **What a listing tells.** The newest orders of a user who is known, with their number and with
the limit that has been applied. -/
theorem listing_of_reply {d : Desk} (hd : d.users.Keyed User.username) {defaultLimit : Nat}
    {moments : Nat → Moment} {query : ListingQuery} {listing : OrderListing}
    (h : (orders query).reply defaultLimit moments d = .ok (.listing listing)) :
    listing.limit = query.limit.elim defaultLimit Int.toNat ∧
      listing.orders =
        (d.ordersOf ⟨query.username⟩ query.status (some listing.limit)).map Order.view ∧
      listing.count = listing.orders.length ∧ listing.count ≤ listing.limit := by
  obtain ⟨user, -, huser, rfl⟩ := reply_orders_ok_iff.1 h
  have hname : user.username = ⟨query.username⟩ := hd _ user huser
  simp [OrderListing.ofOrders, hname, Desk.ordersOf_some]

end Call

end OrderDesk
