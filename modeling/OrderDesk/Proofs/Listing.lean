import Mathlib.Data.List.Nodup
import Mathlib.Data.String.Basic
import OrderDesk.Proofs.Stores

/-!
# Listings

A listing shows orders, the newest first. No two orders have the same place in that order, so that a
listing depends on which orders are stored, and not on when they were.

## Main results

* `OrderDesk.Table.mem_values_iff` — the values of a table are those that are found.
* `OrderDesk.Desk.newestFirst_congr` — the same orders are listed in the same way.
* `OrderDesk.Desk.mem_values_orders_iff` — an order is stored exactly if it is found.
* `OrderDesk.Desk.mem_of_mem_ordersOf`, `OrderDesk.Desk.get?_of_mem_ordersOf` — what is listed is
  stored, and it is the owner's.
* `OrderDesk.Desk.ordersOf_congr` — a listing depends on nothing but the orders of its owner.
-/

set_option autoImplicit false

namespace OrderDesk

/-! ## The values of a table -/

namespace Table

variable {κ ν : Type} [DecidableEq κ] {t : Table κ ν}

/-- A row is found by its key. -/
theorem find?_eq_some_iff {rows : List (κ × ν)} (hnodup : (rows.map Prod.fst).Nodup) {k : κ}
    {v : ν} : find? k rows = some v ↔ (k, v) ∈ rows := by
  induction rows with
  | nil => simp [find?]
  | cons row rows ih =>
    obtain ⟨k₀, v₀⟩ := row
    simp only [List.map_cons, List.nodup_cons] at hnodup
    by_cases hk : k₀ = k
    · subst hk
      have habsent : (k₀, v) ∉ rows := fun h => hnodup.1 (List.mem_map_of_mem h)
      simp [find?, habsent, eq_comm]
    · have hk' : k ≠ k₀ := Ne.symm hk
      simp [find?, hk, hk', ih hnodup.2]

/-- The values of a table are those that are found. -/
theorem mem_values_iff {v : ν} : v ∈ t.values ↔ ∃ k, t.get? k = some v := by
  unfold values get?
  simp only [find?_eq_some_iff t.nodup_keys, List.mem_map, Prod.exists, exists_eq_right]

/-- Where every value is stored under its own key, no value is stored twice. -/
theorem Keyed.nodup_values {key : ν → κ} (h : t.Keyed key) : t.values.Nodup := by
  have hkeys : t.values.map key = t.rows.map Prod.fst := by
    unfold values
    rw [List.map_map]
    refine List.map_congr_left fun row hrow => ?_
    exact h row.1 row.2 ((find?_eq_some_iff t.nodup_keys).2 hrow)
  exact List.Nodup.of_map key (hkeys ▸ t.nodup_keys)

end Table

/-! ## The newest first -/

namespace Instant

variable {a b c : Instant}

/-- No instant is earlier than itself. -/
theorem lt_irrefl (a : Instant) : ¬a < a := by
  rw [lt_def]
  omega

/-- What is earlier than an earlier instant is earlier. -/
theorem lt_trans (hab : a < b) (hbc : b < c) : a < c := by
  rw [lt_def] at hab hbc ⊢
  omega

/-- Of two instants one is earlier, or they are the same. -/
theorem lt_trichotomy (a b : Instant) : a < b ∨ a = b ∨ b < a := by
  obtain ⟨s, n, hn⟩ := a
  obtain ⟨t, m, hm⟩ := b
  simp only [lt_def, mk.injEq]
  omega

end Instant

namespace Desk

variable {a b c : Order}

/-- What comes first is later or, at the same time, has the larger order ID. -/
theorem comesBefore_iff : comesBefore a b = true ↔
    b.createdAt < a.createdAt ∨ (a.createdAt = b.createdAt ∧ b.orderId.text ≤ a.orderId.text) := by
  simp [comesBefore]

/-- Of two orders one comes first. -/
theorem comesBefore_total (a b : Order) : (comesBefore a b || comesBefore b a) = true := by
  rw [Bool.or_eq_true, comesBefore_iff, comesBefore_iff]
  obtain hless | heq | hmore := Instant.lt_trichotomy a.createdAt b.createdAt
  · exact .inr (.inl hless)
  · exact (String.le_total b.orderId.text a.orderId.text).imp
      (fun h => .inr ⟨heq, h⟩) fun h => .inr ⟨heq.symm, h⟩
  · exact .inl (.inl hmore)

/-- What comes before an order comes before all that it comes before. -/
theorem comesBefore_trans (a b c : Order) (hab : comesBefore a b = true)
    (hbc : comesBefore b c = true) : comesBefore a c = true := by
  rw [comesBefore_iff] at hab hbc ⊢
  rcases hab with hab | ⟨hab, hid⟩ <;> rcases hbc with hbc | ⟨hbc, hid'⟩
  · exact .inl (Instant.lt_trans hbc hab)
  · exact .inl (hbc ▸ hab)
  · exact .inl (hab ▸ hbc)
  · exact .inr ⟨hab.trans hbc, String.le_trans hid' hid⟩

/-- Two orders that come before each other have the same order ID. -/
theorem orderId_of_comesBefore (hab : comesBefore a b = true) (hba : comesBefore b a = true) :
    a.orderId = b.orderId := by
  rw [comesBefore_iff] at hab hba
  rcases hab with hab | ⟨hab, hid⟩ <;> rcases hba with hba | ⟨hba, hid'⟩
  · exact absurd (Instant.lt_trans hab hba) (Instant.lt_irrefl _)
  · exact absurd (hba ▸ hab) (Instant.lt_irrefl _)
  · exact absurd (hab ▸ hba) (Instant.lt_irrefl _)
  · exact congrArg OrderId.mk (String.le_antisymm hid' hid)

/-- The orders of a listing come one before the other. -/
theorem pairwise_newestFirst (orders : List Order) :
    (newestFirst orders).Pairwise fun a b => comesBefore a b = true :=
  List.pairwise_mergeSort comesBefore_trans comesBefore_total orders

/-- A listing has the orders that are listed. -/
theorem newestFirst_perm (orders : List Order) : (newestFirst orders).Perm orders :=
  List.mergeSort_perm _ _

/-- The same orders are listed in the same way, if no two of them have the same order ID. -/
theorem newestFirst_congr {orders orders' : List Order} (hsame : orders.Perm orders')
    (hid : ∀ a ∈ orders, ∀ b ∈ orders, a.orderId = b.orderId → a = b) :
    newestFirst orders = newestFirst orders' := by
  have hperm : (newestFirst orders).Perm (newestFirst orders') :=
    (newestFirst_perm orders).trans (hsame.trans (newestFirst_perm orders').symm)
  refine hperm.eq_of_pairwise (fun a b ha hb hab hba => ?_) (pairwise_newestFirst _)
    (pairwise_newestFirst _)
  refine hid a ((newestFirst_perm orders).mem_iff.1 ha) b ?_ (orderId_of_comesBefore hab hba)
  exact (newestFirst_perm orders).mem_iff.1 (hperm.mem_iff.2 hb)

/-! ## The orders of a user -/

variable {d e : Desk}

/-- An order is stored exactly if it is found. -/
theorem mem_values_orders_iff (hd : d.orders.Keyed fun o => o.orderId) {order : Order} :
    order ∈ d.orders.values ↔ d.orders.get? order.orderId = some order := by
  rw [Table.mem_values_iff]
  constructor
  · rintro ⟨orderId, hfound⟩
    obtain rfl := hd orderId order hfound
    exact hfound
  · exact fun hfound => ⟨_, hfound⟩

/-- A listing shows stored orders of its owner, those in the status that is asked for. -/
theorem mem_of_mem_ordersOf {owner : Username} {status : Option Status} {limit : Option Nat}
    {order : Order} (hlisted : order ∈ d.ordersOf owner status limit) :
    order ∈ d.orders.values ∧ order.username = owner ∧
      status.all (order.status == ·) = true := by
  let listed (order : Order) : Bool := order.username == owner && status.all (order.status == ·)
  have hmem : order ∈ newestFirst (d.orders.values.filter listed) := by
    cases limit with
    | none => exact hlisted
    | some n => exact List.mem_of_mem_take hlisted
  obtain ⟨hvalue, hasked⟩ := List.mem_filter.1 ((newestFirst_perm _).mem_iff.1 hmem)
  obtain ⟨howner, hstatus⟩ := Bool.and_eq_true_iff.1 hasked
  exact ⟨hvalue, eq_of_beq howner, hstatus⟩

/-- A listing shows orders that are stored. -/
theorem get?_of_mem_ordersOf (hd : d.orders.Keyed fun o => o.orderId) {owner : Username}
    {status : Option Status} {limit : Option Nat} {order : Order}
    (hlisted : order ∈ d.ordersOf owner status limit) :
    d.orders.get? order.orderId = some order :=
  (mem_values_orders_iff hd).1 (mem_of_mem_ordersOf hlisted).1

/-- **A listing depends on nothing but the orders of its owner.** Two desks that store the same
orders of a user list them in the same way. -/
theorem ordersOf_congr (hd : d.orders.Keyed fun o => o.orderId)
    (he : e.orders.Keyed fun o => o.orderId) {owner : Username}
    (hown : ∀ orderId order, order.username = owner →
      (d.orders.get? orderId = some order ↔ e.orders.get? orderId = some order))
    (status : Option Status) (limit : Option Nat) :
    d.ordersOf owner status limit = e.ordersOf owner status limit := by
  let listed (order : Order) : Bool := order.username == owner && status.all (order.status == ·)
  have hsame : (d.orders.values.filter listed).Perm (e.orders.values.filter listed) := by
    rw [List.perm_ext_iff_of_nodup (hd.nodup_values.filter _) (he.nodup_values.filter _)]
    intro order
    rw [List.mem_filter, List.mem_filter, mem_values_orders_iff hd, mem_values_orders_iff he]
    refine and_congr_left fun hlisted => hown _ order ?_
    simp only [listed, Bool.and_eq_true, beq_iff_eq] at hlisted
    exact hlisted.1
  have hid : ∀ a ∈ d.orders.values.filter listed, ∀ b ∈ d.orders.values.filter listed,
      a.orderId = b.orderId → a = b := by
    intro a ha b hb hab
    have ha' := (mem_values_orders_iff hd).1 (List.mem_of_mem_filter ha)
    have hb' := (mem_values_orders_iff hd).1 (List.mem_of_mem_filter hb)
    rw [hab, hb'] at ha'
    exact (Option.some.inj ha').symm
  have hlist : newestFirst (d.orders.values.filter listed) =
      newestFirst (e.orders.values.filter listed) := newestFirst_congr hsame hid
  cases limit with
  | none => exact hlist
  | some n => exact congrArg (List.take n) hlist

end Desk

end OrderDesk
