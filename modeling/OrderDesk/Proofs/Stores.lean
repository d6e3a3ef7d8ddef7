import OrderDesk.Desk.Basic

/-!
# The stores of the desk

What a change of the desk does to its stores, case by case, and that every entry is stored under a
key of its own.

## Main definitions

* `OrderDesk.Table.Keyed`, `OrderDesk.Desk.Keyed` — every entry is stored under its own key.

## Main results

* `OrderDesk.Desk.charge_eq_ok_iff` — when a balance is charged, and all that it can become.
* `OrderDesk.Desk.saveIfStatus_cases`, `OrderDesk.Desk.commit_cases` — all that the two changes of
  orders can do.
* `OrderDesk.Desk.Keyed.answer` — answering a request leaves every entry under its own key.
-/

set_option autoImplicit false

namespace OrderDesk

/-- What becomes of an amount of money by an order on a side: less by the value of the order, or
more. -/
def Side.change? (side : Side) (money value : Decimal) : Option Decimal :=
  match side with
  | buy => money.difference? value
  | sell => money.sum? value

/-! ## Keys -/

namespace Table

variable {κ ν : Type} [DecidableEq κ] {key : ν → κ} {t : Table κ ν}

/-- Every value is stored under its own key. -/
def Keyed (key : ν → κ) (t : Table κ ν) : Prop :=
  ∀ k v, t.get? k = some v → key v = k

/-- The empty table stores nothing under a wrong key. -/
theorem keyed_empty : (empty : Table κ ν).Keyed key := by
  intro k v h
  cases h

/-- A value put under its own key. -/
theorem Keyed.put (h : t.Keyed key) (value : ν) : (t.put (key value) value).Keyed key := by
  intro k v hv
  rw [get?_put] at hv
  split at hv
  · next hk => rw [← Option.some.inj hv, hk]
  · exact h k v hv

end Table

namespace Desk

/-- Every entry of the desk is stored under its own key. -/
structure Keyed (d : Desk) : Prop where
  users : d.users.Keyed User.username
  assets : d.assets.Keyed Asset.assetId
  balances : d.balances.Keyed Balance.username
  orders : d.orders.Keyed fun o => o.orderId

/-- The empty desk stores nothing under a wrong key. -/
theorem keyed_empty : empty.Keyed :=
  ⟨Table.keyed_empty, Table.keyed_empty, Table.keyed_empty, Table.keyed_empty⟩

namespace Keyed

variable {d : Desk}

/-- A user is put under the name of the user. -/
theorem putUser (h : d.Keyed) (user : User) : (d.putUser user).Keyed :=
  { h with users := h.users.put user }

/-- An asset is put under its symbol. -/
theorem putAsset (h : d.Keyed) (asset : Asset) : (d.putAsset asset).Keyed :=
  { h with assets := h.assets.put asset }

/-- A balance is put under the name of its user. -/
theorem putBalance (h : d.Keyed) (balance : Balance) : (d.putBalance balance).Keyed :=
  { h with balances := h.balances.put balance }

/-- An order is put under its order ID. -/
theorem putOrder (h : d.Keyed) (order : Order) : (d.putOrder order).Keyed :=
  { h with orders := h.orders.put order }

end Keyed

/-! ## Single entries -/

variable (d : Desk)

/-- An order that has been put is found under its order ID, and no other order changes. -/
@[simp]
theorem get?_orders_putOrder (order : Order) (orderId : OrderId) :
    (d.putOrder order).orders.get? orderId =
      if order.orderId = orderId then some order else d.orders.get? orderId :=
  Table.get?_put _ _ _ _

/-- A balance that has been put is found under the name of its user, and no other one changes. -/
@[simp]
theorem get?_balances_putBalance (balance : Balance) (username : Username) :
    (d.putBalance balance).balances.get? username =
      if balance.username = username then some balance else d.balances.get? username :=
  Table.get?_put _ _ _ _

/-- The money of a user who has no balance is nothing. -/
theorem current_balanceOf (d : Desk) (username : Username) (now : Instant) :
    (d.balanceOf username now).current =
      (d.balances.get? username).elim .zero Balance.current := by
  unfold balanceOf
  cases d.balances.get? username <;> rfl

/-- The balance of a user is the user's own. -/
theorem username_balanceOf {d : Desk} (h : d.balances.Keyed Balance.username) (username : Username)
    (now : Instant) : (d.balanceOf username now).username = username := by
  unfold balanceOf
  cases hb : d.balances.get? username with
  | none => rfl
  | some balance => exact h username balance hb

/-! ## Changes -/

/-- A balance is charged exactly if the amount is not negative, is covered if it is debited, and the
difference or sum is in range. Then its amount is the difference or the sum. -/
theorem charge_eq_ok_iff {side : Side} {before after : Balance} {amount : Decimal} {now : Instant} :
    charge side before amount now = .ok after ↔
      amount.isNegative = false ∧ (side = .buy → amount ≤ before.current) ∧
        ∃ current, side.change? before.current amount = some current ∧
          after = before.withCurrent current now := by
  cases side with
  | buy =>
    unfold charge Balance.debit Side.change?
    by_cases hcovers : amount ≤ before.current
    · cases amount.isNegative with
      | true => simp [Balance.covers, hcovers, ofBalance]
      | false =>
        cases before.current.difference? amount with
        | none => simp [Balance.covers, hcovers, ofBalance]
        | some rest => simp [Balance.covers, hcovers, ofBalance, eq_comm]
    · simp [Balance.covers, hcovers]
  | sell =>
    unfold charge Balance.credit Side.change?
    cases amount.isNegative with
    | true => simp [ofBalance]
    | false =>
      cases before.current.sum? amount with
      | none => simp [ofBalance]
      | some total => simp [ofBalance, eq_comm]

/-- All that a balance can become: it is not less than what is debited, and its amount is the
difference or the sum. -/
theorem eq_withCurrent_of_charge {side : Side} {before after : Balance} {amount : Decimal}
    {now : Instant} (h : charge side before amount now = .ok after) :
    ∃ current, side.change? before.current amount = some current ∧
      (side = .buy → amount ≤ before.current) ∧ after = before.withCurrent current now := by
  obtain ⟨-, hcovers, current, hchange, hafter⟩ := charge_eq_ok_iff.1 h
  exact ⟨current, hchange, hcovers, hafter⟩

/-- An order changes the money of its owner alone. -/
theorem username_of_charge {side : Side} {before after : Balance} {amount : Decimal} {now : Instant}
    (h : charge side before amount now = .ok after) : after.username = before.username := by
  obtain ⟨current, -, -, rfl⟩ := eq_withCurrent_of_charge h
  rfl

/-- A new order is stored exactly if its order ID is not taken. -/
theorem persist_eq_ok_iff {order : Order} {stored : Desk} :
    d.persist order = .ok stored ↔
      d.orders.get? order.orderId = none ∧ stored = d.putOrder order := by
  unfold persist insertOrder Table.contains
  cases d.orders.get? order.orderId <;> simp [eq_comm]

/-- All that a replacement can do: there is no order, the order is in another status, or the order
is replaced. -/
theorem saveIfStatus_cases (order : Order) (expected : Status) :
    (d.orders.get? order.orderId = none ∧
      d.saveIfStatus order expected = (.error (.notFound order.orderId.text), d)) ∨
    (∃ stored, d.orders.get? order.orderId = some stored ∧ stored.status ≠ expected ∧
      d.saveIfStatus order expected =
        (.error (.statusConflict order.orderId.text expected stored.status), d)) ∨
    (∃ stored, d.orders.get? order.orderId = some stored ∧ stored.status = expected ∧
      d.saveIfStatus order expected = (.ok (), d.putOrder order)) := by
  unfold saveIfStatus replaceIf
  cases hget : d.orders.get? order.orderId with
  | none => exact .inl ⟨rfl, rfl⟩
  | some stored =>
    by_cases hstatus : stored.status = expected
    · exact .inr (.inr ⟨stored, rfl, hstatus, by simp [hstatus]⟩)
    · exact .inr (.inl ⟨stored, rfl, hstatus, by simp [hstatus]⟩)

/-- All that a commit can do: it fails and changes nothing, or the order is new and is stored
together with the balance that is left. -/
theorem commit_cases (m : Moment) (side : Side) (order : Order) :
    (∃ e, d.commit m side order = (.error e, d)) ∨
    (∃ balance, m.stalled = none ∧
      charge side (d.balanceOf order.username m.now) order.totalAmount m.now = .ok balance ∧
      d.orders.get? order.orderId = none ∧
      d.commit m side order = (.ok ⟨order, balance⟩, (d.putOrder order).putBalance balance)) := by
  unfold commit settle
  cases hstalled : m.stalled with
  | some ms => exact .inl ⟨_, rfl⟩
  | none =>
    cases hcharge : charge side (d.balanceOf order.username m.now) order.totalAmount m.now with
    | error e => exact .inl ⟨e, rfl⟩
    | ok balance =>
      cases hpersist : d.persist order with
      | error e => exact .inl ⟨e, by simp [bind, Except.bind]⟩
      | ok stored =>
        obtain ⟨hnew, rfl⟩ := (persist_eq_ok_iff d).1 hpersist
        exact .inr ⟨balance, rfl, rfl, hnew, by simp [bind, Except.bind, pure, Except.pure]⟩

/-- A commit that succeeds has charged the balance of the user with the value of the order. -/
theorem charge_of_commit {d : Desk} {m : Moment} {side : Side} {order : Order}
    {settlement : Settlement} (h : (d.commit m side order).1 = .ok settlement) :
    charge side (d.balanceOf order.username m.now) order.totalAmount m.now =
      .ok settlement.balance := by
  rcases d.commit_cases m side order with ⟨e, he⟩ | ⟨balance, -, hcharge, -, he⟩
  · rw [he] at h
    cases h
  · rw [he] at h
    cases h
    exact hcharge

/-- A commit that has the lock succeeds exactly if the money of the order can be moved and its order
ID is not taken. -/
theorem commit_eq_ok_iff {d d' : Desk} {m : Moment} {side : Side} {order : Order}
    {settlement : Settlement} (hfree : m.stalled = none) :
    d.commit m side order = (.ok settlement, d') ↔
      ∃ balance, charge side (d.balanceOf order.username m.now) order.totalAmount m.now =
          .ok balance ∧ d.orders.get? order.orderId = none ∧ settlement = ⟨order, balance⟩ ∧
        d' = (d.putOrder order).putBalance balance := by
  unfold commit settle
  rw [hfree]
  cases charge side (d.balanceOf order.username m.now) order.totalAmount m.now with
  | error e => simp [bind, Except.bind]
  | ok balance =>
    cases hpersist : d.persist order with
    | error e =>
      have htaken : d.orders.get? order.orderId ≠ none := by
        intro hnew
        have hstored : d.persist order = .ok (d.putOrder order) :=
          d.persist_eq_ok_iff.2 ⟨hnew, rfl⟩
        cases hpersist.symm.trans hstored
      simp [bind, Except.bind, htaken]
    | ok stored =>
      obtain ⟨hnew, rfl⟩ := (d.persist_eq_ok_iff).1 hpersist
      simp [bind, Except.bind, pure, Except.pure, hnew, eq_comm]

/-- Answering a request leaves every entry under its own key. -/
theorem Keyed.answer {d : Desk} (h : d.Keyed) (m : Moment) (request : Request) :
    (Desk.answer m request d).2.Keyed := by
  cases request with
  | clock | token | findUser | findAsset | findBalance | findOrder | ordersOf | log => exact h
  | saveIfStatus order expected =>
    obtain ⟨-, he⟩ | ⟨stored, -, -, he⟩ | ⟨stored, -, -, he⟩ := d.saveIfStatus_cases order expected
    · exact (congrArg Prod.snd he) ▸ h
    · exact (congrArg Prod.snd he) ▸ h
    · exact (congrArg Prod.snd he) ▸ h.putOrder order
  | commit side order =>
    obtain ⟨e, he⟩ | ⟨balance, -, -, -, he⟩ := d.commit_cases m side order
    · exact (congrArg Prod.snd he) ▸ h
    · exact (congrArg Prod.snd he) ▸ (h.putOrder order).putBalance balance

/-! ## A small desk -/

/-- The desk of one user, who has a balance of a thousand, and of one asset. -/
def small : Desk :=
  ((empty.putUser { username := ⟨"alice"⟩, role := .customer, isActive := true }).putAsset
    (Asset.listed "BTC" "Bitcoin" 600.00)).putBalance
      { username := ⟨"alice"⟩, current := 1000,
        updatedAt := .ofSeconds 1700000000 }

/-- The small desk stores nothing under a wrong key. -/
theorem keyed_small : small.Keyed :=
  ((keyed_empty.putUser _).putAsset _).putBalance _

end Desk

/-- A pending order of the user of the small desk. -/
def Order.small : Order :=
  { orderId := ⟨"ord_1700000000_abcd1234_alice"⟩, username := ⟨"alice"⟩, orderType := .marketBuy,
    assetId := ⟨"BTC"⟩, quantity := 1, orderPrice := none,
    totalAmount := 600.00, status := .pending, expiresAt := none,
    createdAt := .ofSeconds 1700000000, updatedAt := .ofSeconds 1700000000,
    isSome_orderPrice := rfl }

/-- A moment a number of seconds after the small desk has been set up. -/
def Moment.small (seconds : Nat) : Moment :=
  { now := .ofSeconds (1700000000 + seconds), token := ⟨seconds % 1000, by omega⟩, stalled := none }

end OrderDesk
