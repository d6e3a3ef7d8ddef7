import Mathlib.Tactic.Abel
import OrderDesk.Proofs.Amount
import OrderDesk.Proofs.Traffic.Versions

/-!
# The ledger

Orders and balances are kept in two stores. They agree in every run: the money of a user is what it
was at first, less the value of the user's stored orders to buy, more the value of those to sell.
The status of an order does not matter, since money moves only when an order is stored.

## Main definitions

* `OrderDesk.Desk.money`, `OrderDesk.Desk.turnover` — the money and the orders of a user.
* `OrderDesk.Turn.IsExact`, `OrderDesk.Traffic.CommitsExactly` — the debits and credits of a run are
  exact.

## Main results

* `OrderDesk.Traffic.ledger_play` — orders and balances agree whenever nobody has the balance lock.
-/

set_option autoImplicit false

namespace OrderDesk

/-! ## Sums over a table -/

/-- Setting a value adds it to a sum over all values, in place of the one that was there. -/
theorem Table.sum_values_put {κ ν M : Type} [DecidableEq κ] [AddCommGroup M] (t : Table κ ν)
    (key : κ) (value : ν) (f : ν → M) :
    ((t.put key value).values.map f).sum =
      (t.values.map f).sum + f value - (t.get? key).elim 0 f := by
  unfold values get? put
  dsimp only
  induction t.rows with
  | nil => simp [set, find?]
  | cons row rows ih =>
    obtain ⟨k, v⟩ := row
    by_cases hk : k = key
    · simp only [set, find?, hk, if_true, List.map_cons, List.sum_cons, Option.elim_some]
      abel
    · simp only [set, find?, hk, if_false, List.map_cons, List.sum_cons, ih]
      abel

/-! ## Money and orders of a user -/

/-- What an order adds to the money of a user. -/
def Order.flow (o : Order) (username : Username) : ℚ :=
  if o.username = username then o.side.signed o.totalAmount else 0

namespace Desk

/-- The **money** of a user, as a number; without a balance it is zero. -/
def money (d : Desk) (username : Username) : ℚ :=
  (d.balances.get? username).elim 0 fun balance => balance.current.value

/-- The **turnover** of a user: the value of all stored orders on a side, whatever their status. -/
def turnover (d : Desk) (side : Side) (username : Username) : ℚ :=
  ((d.orders.values.filter fun o => o.username = username ∧ o.side = side).map
    fun o => o.totalAmount.value).sum

/-- What all stored orders have added to the money of a user. -/
def flow (d : Desk) (username : Username) : ℚ :=
  (d.orders.values.map (·.flow username)).sum

/-- Orders to sell add to the money of a user, orders to buy take away from it. -/
theorem flow_eq (d : Desk) (username : Username) :
    d.flow username = d.turnover .sell username - d.turnover .buy username := by
  unfold flow turnover
  induction d.orders.values with
  | nil => simp
  | cons o orders ih =>
    rw [List.map_cons, List.sum_cons, ih]
    by_cases hname : o.username = username
    · cases hside : o.side <;>
        simp only [Order.flow, Side.signed, hname, hside, if_true, List.filter_cons, true_and,
          decide_true, reduceCtorEq, decide_false, List.map_cons, List.sum_cons, Bool.false_eq_true,
          if_false]
      · ring
      · ring
    · simp [Order.flow, hname]

variable (d : Desk)

/-- The money of a user is what the commit of an order finds. -/
theorem value_balanceOf (username : Username) (now : Instant) :
    (d.balanceOf username now).current.value = d.money username := by
  unfold balanceOf money
  cases d.balances.get? username with
  | none => exact Decimal.value_zero
  | some balance => rfl

/-- A balance that is put is the money of its user. -/
theorem money_putBalance (balance : Balance) (username : Username) :
    (d.putBalance balance).money username =
      if balance.username = username then balance.current.value else d.money username := by
  unfold money
  rw [get?_balances_putBalance]
  split <;> rfl

/-- An order that is put adds its own flow, in place of the flow of the order that was there. -/
theorem flow_putOrder (order : Order) (username : Username) :
    (d.putOrder order).flow username = d.flow username + order.flow username -
      (d.orders.get? order.orderId).elim 0 (·.flow username) :=
  Table.sum_values_put _ _ _ _

/-- Orders and balances of a desk agree with the money that there was at first. -/
def Balanced (first d : Desk) : Prop :=
  ∀ username, d.money username = first.money username + d.flow username

end Desk

/-- Orders on the same terms have the same flow. -/
theorem Order.SameTerms.flow {a b : Order} (h : SameTerms a b) (username : Username) :
    b.flow username = a.flow username := by
  unfold Order.flow
  rw [h.username, h.side, h.totalAmount]

namespace Desk.Balanced

variable {first d : Desk}

/-- Another version of a stored order changes nothing. -/
theorem putOrder (h : Balanced first d) {order changed : Order}
    (hget : d.orders.get? changed.orderId = some order) (hterms : Order.SameTerms order changed) :
    Balanced first (d.putOrder changed) := by
  intro username
  rw [flow_putOrder, hget, Option.elim_some, hterms.flow, add_sub_cancel_right]
  exact h username

/-- A new order comes with its money. -/
theorem settle (h : Balanced first d) (hkeyed : d.balances.Keyed Balance.username) {order : Order}
    {balance : Balance} {now : Instant}
    (hexact : order.side.IsExact (d.balanceOf order.username now).current order.totalAmount)
    (hcharge : charge order.side (d.balanceOf order.username now) order.totalAmount now =
      .ok balance)
    (hnew : d.orders.get? order.orderId = none) :
    Balanced first ((d.putOrder order).putBalance balance) := by
  intro username
  have hname : balance.username = order.username := by
    rw [username_of_charge hcharge, username_balanceOf hkeyed]
  obtain ⟨current, hchange, -, rfl⟩ := eq_withCurrent_of_charge hcharge
  have hvalue := Side.value_of_change? hexact hchange
  have hflow : ((d.putOrder order).putBalance ((d.balanceOf order.username now).withCurrent
      current now)).flow username = d.flow username + order.flow username := by
    rw [show ((d.putOrder order).putBalance _).flow username =
      (d.putOrder order).flow username from rfl, flow_putOrder, hnew, Option.elim_none, sub_zero]
  rw [money_putBalance, hname, hflow, Order.flow]
  split
  · next howner =>
    subst howner
    rw [show ((d.balanceOf order.username now).withCurrent current now).current = current from rfl,
      hvalue, value_balanceOf, h]
    ring
  · rw [add_zero]
    exact h username

end Desk.Balanced

/-! ## Runs -/

/-- A choice that sets a balance from outside. -/
def Choice.SetsBalance : Choice → Prop
  | upkeep _ (.balance ..) => True
  | upkeep _ (.user _) | upkeep _ (.asset _) | turn .. | abandon => False

/-- What is committed on a desk in a turn, if anything, is debited or credited **exactly**. -/
def Turn.IsExact (turn : Turn) (d : Desk) : Prop :=
  match turn.toExchange with
  | ⟨.commit side order, .ok _⟩ =>
    side.IsExact (d.balanceOf order.username turn.moment.now).current order.totalAmount
  | _ => True

instance (turn : Turn) (d : Desk) : Decidable (turn.IsExact d) :=
  match turn with
  | ⟨⟨.commit side order, .ok _⟩, _, m⟩ => inferInstanceAs (Decidable
    (side.IsExact (d.balanceOf order.username m.now).current order.totalAmount))
  | ⟨⟨.commit .., .error _⟩, _, _⟩ | ⟨⟨.clock, _⟩, _, _⟩ | ⟨⟨.token, _⟩, _, _⟩
  | ⟨⟨.findUser _, _⟩, _, _⟩ | ⟨⟨.findAsset _, _⟩, _, _⟩ | ⟨⟨.findBalance _, _⟩, _, _⟩
  | ⟨⟨.findOrder _, _⟩, _, _⟩ | ⟨⟨.ordersOf .., _⟩, _, _⟩ | ⟨⟨.saveIfStatus .., _⟩, _, _⟩
  | ⟨⟨.log _, _⟩, _, _⟩ => .isTrue trivial

namespace Traffic

variable {α : Type}

/-- Every debit and credit that is committed along a schedule is exact. -/
def CommitsExactly (s : Traffic α) : List Choice → Prop
  | [] => True
  | c :: schedule =>
    (∀ turn ∈ (s.step c).trace.drop s.trace.length, turn.IsExact s.desk) ∧
      (s.step c).CommitsExactly schedule

/-- Whether all debits and credits along a schedule are exact can be computed. -/
def decidableCommitsExactly (s : Traffic α) :
    (schedule : List Choice) → Decidable (s.CommitsExactly schedule)
  | [] => .isTrue trivial
  | c :: schedule => by
    have := (s.step c).decidableCommitsExactly schedule
    exact inferInstanceAs (Decidable (_ ∧ _))

instance (s : Traffic α) (schedule : List Choice) : Decidable (s.CommitsExactly schedule) :=
  s.decidableCommitsExactly schedule

/-- Along a longer schedule, what the last step commits is exact as well. -/
theorem commitsExactly_concat {s : Traffic α} {schedule : List Choice} {c : Choice} :
    s.CommitsExactly (schedule ++ [c]) ↔ s.CommitsExactly schedule ∧
      ∀ turn ∈ ((s.play schedule).step c).trace.drop (s.play schedule).trace.length,
        turn.IsExact (s.play schedule).desk := by
  induction schedule generalizing s with
  | nil => simp [CommitsExactly, play]
  | cons first schedule ih =>
    rw [List.cons_append, CommitsExactly, CommitsExactly, ih, and_assoc]
    rfl

/-- Answering a request leaves every balance of the settled desk under its own key. -/
theorem keyed_settled_step {s : Traffic α} (hlocked : s.Locked) (hkeyed : s.settled.Keyed)
    (c : Choice) : (s.step c).settled.Keyed := by
  obtain hrests | ⟨turn, next, htakes, -⟩ | ⟨m, task, -, hsettled, -, -⟩ := step_cases hlocked c
  · rw [hrests.settled]
    exact hkeyed
  · rw [htakes.settled]
    exact hkeyed.answer _ _
  · rw [hsettled]
    cases task with
    | user u => exact hkeyed.putUser u
    | asset a => exact hkeyed.putAsset a
    | balance username amount => exact hkeyed.putBalance _

/-- In every run each entry of the settled desk is stored under its own key. -/
theorem keyed_settled_play {d : Desk} (hd : d.Keyed) (calls : List (Program α))
    (schedule : List Choice) : ((start d calls).play schedule).settled.Keyed := by
  induction schedule using List.reverseRecOn with
  | nil => exact hd
  | append_singleton schedule c ih =>
    rw [play_concat]
    exact keyed_settled_step (locked_play d calls schedule) ih c

end Traffic

section Runs

variable {first d : Desk} {calls : List Call} {s s' : Traffic Reply}

/-- A turn leaves orders and balances in agreement.

**Proof sketch.** Only two kinds of turns touch them. A change that is stored replaces an order on
the same terms, since it replaces the version that it was made from. A commit stores an order that
was not there, on its own side, and moves its value exactly. -/
theorem Desk.Balanced.takes (hd : d.orders.Keyed fun o => o.orderId) (hs : Recorded d calls s)
    (hs' : Recorded d calls s') (hkeyed : s.settled.Keyed) (h : first.Balanced s.settled)
    {turn : Turn} {next : turn.request.Answer → Program Reply} (htakes : s.Takes s' turn next)
    (hexact : turn.IsExact s.desk) : first.Balanced s'.settled := by
  have hlawful : Lawful d (s.trace ++ turn :: []) := htakes.trace ▸ hs'.lawful
  rw [htakes.settled]
  obtain ⟨⟨request, answer⟩, call, m⟩ := turn
  have hanswer : answer = (Desk.answer m request s.settled).1 := htakes.answer
  dsimp only at hlawful ⊢
  cases request with
  | clock | token | findUser | findAsset | findBalance | findOrder | ordersOf | log => exact h
  | saveIfStatus changed expected =>
    obtain ⟨-, he⟩ | ⟨_, -, -, he⟩ | ⟨_, -, -, he⟩ := s.settled.saveIfStatus_cases changed expected
    · simpa only [Desk.answer, he] using h
    · simpa only [Desk.answer, he] using h
    · simp only [Desk.answer, he] at hanswer
      subst hanswer
      obtain ⟨order, hp, hlast⟩ := hlawful.replaces hd rfl
      rw [← hs.current] at hlast
      simpa only [Desk.answer, he] using h.putOrder hlast hp.succeeds.terms
  | commit side order =>
    obtain ⟨e, he⟩ | ⟨balance, -, hcharge, hnew, he⟩ := s.settled.commit_cases m side order
    · simpa only [Desk.answer, he] using h
    · obtain ⟨-, rfl, -, -⟩ := hlawful.split.2.1
      simp only [Desk.answer, he] at hanswer
      subst hanswer
      rw [htakes.alone rfl] at hexact
      simpa only [Desk.answer, he] using h.settle hkeyed.balances hexact hcharge hnew

end Runs

/-- In every run that commits exactly and in which no balance is set from outside, the settled
orders and balances agree. -/
theorem Traffic.balanced_play (defaultLimit : Nat) {d : Desk} (hd : d.Keyed)
    (hempty : d.orders = .empty) (calls : List Call) {schedule : List Choice}
    (hupkeep : ∀ c ∈ schedule, ¬c.SetsBalance)
    (hexact : (start d (calls.map (Call.program defaultLimit))).CommitsExactly schedule) :
    d.Balanced ((start d (calls.map (Call.program defaultLimit))).play schedule).settled := by
  induction schedule using List.reverseRecOn with
  | nil =>
    intro username
    have hflow : d.flow username = 0 := by simp [Desk.flow, hempty, Table.values, Table.empty]
    rw [show ((start d (calls.map (Call.program defaultLimit))).play []).settled = d from rfl,
      hflow, add_zero]
  | append_singleton schedule c ih =>
    obtain ⟨hbefore, hlast⟩ := commitsExactly_concat.1 hexact
    have h := ih (fun c hc => hupkeep c (List.mem_append_left _ hc)) hbefore
    have hlocked := locked_play d (calls.map (Call.program defaultLimit)) schedule
    have hkeyed := keyed_settled_play hd (calls.map (Call.program defaultLimit)) schedule
    have hs := recorded_play defaultLimit d calls schedule
    have hs' := hs.step hlocked c
    rw [play_concat]
    obtain hrests | ⟨turn, next, htakes, -⟩ | ⟨m, task, rfl, hsettled, -, -⟩ :=
      step_cases hlocked c
    · rw [hrests.settled]
      exact h
    · refine h.takes hd.orders hs hs' hkeyed htakes (hlast turn ?_)
      simp [htakes.trace]
    · rw [hsettled]
      cases task with
      | user u => exact h
      | asset a => exact h
      | balance username amount =>
        have hmem := List.mem_append_right schedule
          (List.mem_singleton_self (Choice.upkeep m (.balance username amount)))
        exact (hupkeep _ hmem trivial).elim

/-- **The ledger.** Whatever calls are served at the same time and in whatever order they go on,
whenever nobody has the balance lock the money of every user is what it was at first, less the
orders to buy, more the orders to sell. -/
theorem Traffic.ledger_play (defaultLimit : Nat) (d : Desk) (hd : d.Keyed)
    (hempty : d.orders = .empty) (calls : List Call) (schedule : List Choice)
    (hupkeep : ∀ c ∈ schedule, ¬c.SetsBalance)
    (hexact : (start d (calls.map (Call.program defaultLimit))).CommitsExactly schedule)
    (hfree : ((start d (calls.map (Call.program defaultLimit))).play schedule).lock = .free)
    (username : Username) :
    ((start d (calls.map (Call.program defaultLimit))).play schedule).desk.money username =
      d.money username -
        ((start d (calls.map (Call.program defaultLimit))).play schedule).desk.turnover .buy
          username +
        ((start d (calls.map (Call.program defaultLimit))).play schedule).desk.turnover .sell
          username := by
  have h := balanced_play defaultLimit hd hempty calls hupkeep hexact
  rw [settled_of_free hfree] at h
  rw [h username, Desk.flow_eq]
  ring

/-- On the small desk an order to buy and an order to sell are placed at the same time. -/
theorem Traffic.ledger_of_two_orders :
    let form (orderType : OrderType) (quantity : Decimal) : OrderForm :=
      { username := "alice", orderType, assetId := "btc", quantity, orderPrice := none,
        expiresAt := none }
    let calls : List Call := [.place (form .marketBuy 1.5),
      .place (form .marketSell 2)]
    let s := (start Desk.small (calls.map (Call.program 50))).play
      ((List.range 28).map fun n => .turn (n % 2) (.small (n % 2)))
    s.desk.orders.size = 2 ∧ s.desk.money ⟨"alice"⟩ =
      Desk.small.money ⟨"alice"⟩ - s.desk.turnover .buy ⟨"alice"⟩ +
        s.desk.turnover .sell ⟨"alice"⟩ :=
  ⟨by decide +kernel, ledger_play 50 _ Desk.keyed_small rfl _ _ (by simp [Choice.SetsBalance])
    (by decide +kernel) (by decide +kernel) _⟩

end OrderDesk
