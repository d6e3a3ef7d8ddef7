import OrderDesk.Proofs.Alone
import OrderDesk.Proofs.SameForms

/-!
# Runs of the same numbers

An order is placed on two desks, which differ in nothing but how the numbers on them are written.
The two runs take the same decisions: both of them store an order, of the same numbers, or both of
them end with the same error, or the money is out of range in both. The desks are of the same
numbers again afterwards.

## Main definitions

* `OrderDesk.Desk.SameNumbers` — two desks of the same numbers.
* `OrderDesk.ServiceError.SameNumbers` — the same error, or a shortage of the same numbers.
* `OrderDesk.Service.EndsSame` — two runs that end with the same numbers.

## Main results

* `OrderDesk.Desk.SameNumbers.commit` — a commit comes to the same.
* `OrderDesk.Service.endsSame_place` — so does placing an order.
-/

set_option autoImplicit false

namespace OrderDesk

open Decimal (SameNumber)

/-! ## Desks of the same numbers -/

/-- Two assets of the same numbers. -/
structure Asset.SameNumbers (a b : Asset) : Prop where
  assetId : a.assetId = b.assetId
  name : a.name = b.name
  price : a.price.SameNumber b.price
  isActive : a.isActive = b.isActive
  category : a.category = b.category

/-- Two balances of the same numbers. -/
structure Balance.SameNumbers (b c : Balance) : Prop where
  username : b.username = c.username
  current : b.current.SameNumber c.current
  updatedAt : b.updatedAt = c.updatedAt

/-- Two commits of the same numbers. -/
structure Settlement.SameNumbers (s t : Settlement) : Prop where
  order : s.order.SameNumbers t.order
  balance : s.balance.SameNumbers t.balance

/-- Two desks of the same numbers: they have the same users, and under every key assets, balances
and orders of the same numbers. -/
structure Desk.SameNumbers (d e : Desk) : Prop where
  users : ∀ username, d.users.get? username = e.users.get? username
  assets : ∀ assetId, Option.Rel Asset.SameNumbers (d.assets.get? assetId) (e.assets.get? assetId)
  balances : ∀ username,
    Option.Rel Balance.SameNumbers (d.balances.get? username) (e.balances.get? username)
  orders : ∀ orderId, Option.Rel Order.SameNumbers (d.orders.get? orderId) (e.orders.get? orderId)

/-! ## Errors of the same numbers -/

/-- The same error, or a shortage of the same numbers. -/
inductive ServiceError.SameNumbers : ServiceError → ServiceError → Prop where
  | same (e : ServiceError) : SameNumbers e e
  | shortage {required required' available available' : Decimal}
    (hrequired : required.SameNumber required') (havailable : available.SameNumber available') :
      SameNumbers (.insufficientBalance required available)
        (.insufficientBalance required' available')

/-- The same error of a commit, or a shortage of the same numbers. -/
inductive TransactionError.SameNumbers : TransactionError → TransactionError → Prop where
  | same (e : TransactionError) : SameNumbers e e
  | shortage {required required' available available' : Decimal}
    (hrequired : required.SameNumber required') (havailable : available.SameNumber available') :
      SameNumbers (.insufficientBalance required available)
        (.insufficientBalance required' available')

/-- Two failures of one kind. -/
inductive Failure.Rel {ε : Type} (E : ε → ε → Prop) : Failure ε → Failure ε → Prop where
  | error {e e' : ε} (h : E e e') : Rel E (.error e) (.error e')
  | sumOverflow : Rel E .sumOverflow .sumOverflow

/-! ## Commits -/

namespace Desk

variable {d e : Desk} {o p : Order} {b c : Balance} {amount amount' : Decimal}

/-- The same money is moved, or it is short of the same numbers, or out of range. -/
theorem charge_congr (side : Side) (hb : b.SameNumbers c) (ha : amount.SameNumber amount')
    (hsign : amount.isNegative = false) (hsign' : amount'.isNegative = false) (now : Instant) :
    ExceptRel (Failure.Rel TransactionError.SameNumbers) Balance.SameNumbers
      (charge side b amount now) (charge side c amount' now) := by
  have hwith {left left' : Decimal} (h : left.SameNumber left') :
      (b.withCurrent left now).SameNumbers (c.withCurrent left' now) :=
    ⟨hb.username, h, rfl⟩
  unfold charge
  cases side with
  | buy =>
    have hcovers : b.covers amount = c.covers amount' := by
      unfold Balance.covers
      simp only [ha.le_iff hb.current]
    have hrest := hb.current.difference? ha
    unfold Balance.debit
    generalize b.current.difference? amount = rest at hrest ⊢
    generalize c.current.difference? amount' = rest' at hrest ⊢
    rw [hcovers, hsign, hsign']
    cases c.covers amount' with
    | false => exact .error (.error (.shortage ha hb.current))
    | true =>
      cases hrest with
      | none => exact .error .sumOverflow
      | some h => exact .ok (hwith h)
  | sell =>
    have htotal := hb.current.sum? ha
    unfold Balance.credit
    generalize b.current.sum? amount = total at htotal ⊢
    generalize c.current.sum? amount' = total' at htotal ⊢
    rw [hsign, hsign']
    cases htotal with
    | none => exact .error .sumOverflow
    | some h => exact .ok (hwith h)

namespace SameNumbers

/-- Orders of the same numbers put on both desks. -/
theorem putOrder (h : d.SameNumbers e) (ho : o.SameNumbers p) :
    (d.putOrder o).SameNumbers (e.putOrder p) := by
  refine { h with orders := fun orderId => ?_ }
  rw [get?_orders_putOrder, get?_orders_putOrder, ho.orderId]
  split
  · exact .some ho
  · exact h.orders orderId

/-- Assets of the same numbers put on both desks. -/
theorem putAsset (h : d.SameNumbers e) {a a' : Asset} (ha : a.SameNumbers a') :
    (d.putAsset a).SameNumbers (e.putAsset a') := by
  refine { h with assets := fun assetId => ?_ }
  change Option.Rel _ ((d.assets.put _ a).get? assetId) ((e.assets.put _ a').get? assetId)
  rw [Table.get?_put, Table.get?_put, ha.assetId]
  split
  · exact .some ha
  · exact h.assets assetId

/-- Balances of the same numbers put on both desks. -/
theorem putBalance (h : d.SameNumbers e) (hb : b.SameNumbers c) :
    (d.putBalance b).SameNumbers (e.putBalance c) := by
  refine { h with balances := fun username => ?_ }
  rw [get?_balances_putBalance, get?_balances_putBalance, hb.username]
  split
  · exact .some hb
  · exact h.balances username

/-- The balance of a user, also of one who never had one. -/
theorem balanceOf (h : d.SameNumbers e) (username : Username) (now : Instant) :
    (d.balanceOf username now).SameNumbers (e.balanceOf username now) := by
  have hfound := h.balances username
  unfold Desk.balanceOf
  generalize d.balances.get? username = found at hfound ⊢
  generalize e.balances.get? username = found' at hfound ⊢
  cases hfound with
  | none => exact ⟨rfl, .refl _, rfl⟩
  | some hb => exact hb

/-- The same order IDs are taken. -/
theorem contains_eq (h : d.SameNumbers e) (orderId : OrderId) :
    d.orders.contains orderId = e.orders.contains orderId := by
  have hfound := h.orders orderId
  unfold Table.contains
  generalize d.orders.get? orderId = found at hfound ⊢
  generalize e.orders.get? orderId = found' at hfound ⊢
  cases hfound <;> rfl

/-- An order is stored on both desks, or on none since its order ID is taken. -/
theorem persist (h : d.SameNumbers e) (ho : o.SameNumbers p) :
    ExceptRel (Failure.Rel TransactionError.SameNumbers) Desk.SameNumbers (d.persist o)
      (e.persist p) := by
  unfold Desk.persist insertOrder
  rw [h.contains_eq, ho.orderId]
  cases e.orders.contains p.orderId with
  | true => exact .error (.error (.same _))
  | false => exact .ok (h.putOrder ho)

/-- An order is settled on both desks, or on none for the same reason. -/
theorem settle (h : d.SameNumbers e) (ho : o.SameNumbers p)
    (hsign : o.totalAmount.isNegative = false) (hsign' : p.totalAmount.isNegative = false)
    (side : Side) (now : Instant) :
    ExceptRel (Failure.Rel TransactionError.SameNumbers)
      (fun r s => r.1.SameNumbers s.1 ∧ r.2.SameNumbers s.2) (d.settle side o now)
      (e.settle side p now) := by
  unfold Desk.settle
  rw [ho.username]
  refine (charge_congr side (h.balanceOf _ now) ho.totalAmount hsign hsign' now).bind
    fun _ _ hb => ?_
  refine (h.persist ho).bind fun _ _ hstored => ?_
  exact .ok ⟨⟨ho, hb⟩, hstored.putBalance hb⟩

/-- **A commit comes to the same.** -/
theorem commit (h : d.SameNumbers e) (ho : o.SameNumbers p)
    (hsign : o.totalAmount.isNegative = false) (hsign' : p.totalAmount.isNegative = false)
    (m : Moment) (side : Side) :
    ExceptRel (Failure.Rel TransactionError.SameNumbers) Settlement.SameNumbers
        (d.commit m side o).1 (e.commit m side p).1 ∧
      (d.commit m side o).2.SameNumbers (e.commit m side p).2 := by
  have hsettle := h.settle ho hsign hsign' side m.now
  unfold Desk.commit
  cases m.stalled with
  | some ms => exact ⟨.error (.error (.same _)), h⟩
  | none =>
    generalize d.settle side o m.now = result at hsettle ⊢
    generalize e.settle side p m.now = result' at hsettle ⊢
    cases hsettle with
    | ok hs => exact ⟨.ok hs.1, hs.2⟩
    | error he => exact ⟨.error he, h⟩

end SameNumbers

end Desk

/-! ## Runs that end with the same numbers -/

namespace Service

variable {α α' β β' ε ε' : Type} {Q : α → α' → Prop} {R : β → β' → Prop}

/-- Two runs **end with the same numbers**: with values that are related by `Q`, or with the same
error, or both with a sum that is out of range, and on desks of the same numbers that have answered
as many requests. -/
structure EndsSame (Q : α → α' → Prop) (r : Except (Failure ServiceError) α × (Desk × Nat))
    (s : Except (Failure ServiceError) α' × (Desk × Nat)) : Prop where
  result : ExceptRel (Failure.Rel ServiceError.SameNumbers) Q r.1 s.1
  desk : r.2.1.SameNumbers s.2.1
  count : r.2.2 = s.2.2

section Steps

variable {moments : Nat → Moment} {d e : Desk} {n : Nat}

/-- One step after another. -/
theorem EndsSame.bind {x : Service α} {y : Service α'} {f : α → Service β} {g : α' → Service β'}
    (hx : EndsSame Q (x.run (Desk.answerAt moments) (d, n)) (y.run (Desk.answerAt moments) (e, n)))
    (hf : ∀ a b d e n, Q a b → d.SameNumbers e →
      EndsSame R ((f a).run (Desk.answerAt moments) (d, n))
        ((g b).run (Desk.answerAt moments) (e, n))) :
    EndsSame R ((x >>= f).run (Desk.answerAt moments) (d, n))
      ((y >>= g).run (Desk.answerAt moments) (e, n)) := by
  rw [run_bind, run_bind]
  generalize x.run (Desk.answerAt moments) (d, n) = left at hx ⊢
  generalize y.run (Desk.answerAt moments) (e, n) = right at hx ⊢
  obtain ⟨r, d', k⟩ := left
  obtain ⟨s, e', k'⟩ := right
  obtain ⟨hresult, hdesk, rfl⟩ := hx
  cases hresult with
  | ok h => exact hf _ _ _ _ _ h hdesk
  | error h => exact ⟨.error h, hdesk, rfl⟩

/-- Values that are there at once. -/
theorem endsSame_pure (hd : d.SameNumbers e) {a : α} {b : α'} (h : Q a b) :
    EndsSame Q ((pure a : Service α).run (Desk.answerAt moments) (d, n))
      ((pure b : Service α').run (Desk.answerAt moments) (e, n)) :=
  ⟨.ok h, hd, rfl⟩

/-- The same refusal. -/
theorem endsSame_refuse (hd : d.SameNumbers e) {a b : ServiceError} (h : a.SameNumbers b) :
    EndsSame Q ((refuse a : Service α).run (Desk.answerAt moments) (d, n))
      ((refuse b : Service α').run (Desk.answerAt moments) (e, n)) :=
  ⟨.error (.error h), hd, rfl⟩

/-- Checks that come to the same. -/
theorem endsSame_ofExcept (hd : d.SameNumbers e) {E : ε → ε' → Prop} {r : Except ε α}
    {s : Except ε' α'} (h : ExceptRel E Q r s) {tell : ε → ServiceError} {tell' : ε' → ServiceError}
    (htell : ∀ a b, E a b → (tell a).SameNumbers (tell' b)) :
    EndsSame Q ((ofExcept tell r).run (Desk.answerAt moments) (d, n))
      ((ofExcept tell' s).run (Desk.answerAt moments) (e, n)) := by
  cases h with
  | ok h => exact endsSame_pure hd h
  | error h => exact endsSame_refuse hd (htell _ _ h)

/-- Events are reported, whatever numbers they show. -/
theorem endsSame_log (hd : d.SameNumbers e) (event event' : Event) :
    EndsSame Eq ((log event).run (Desk.answerAt moments) (d, n))
      ((log event').run (Desk.answerAt moments) (e, n)) :=
  ⟨.ok rfl, hd, rfl⟩

/-- The clock is read. -/
theorem endsSame_clock (hd : d.SameNumbers e) :
    EndsSame Eq (clock.run (Desk.answerAt moments) (d, n))
      (clock.run (Desk.answerAt moments) (e, n)) :=
  ⟨.ok rfl, hd, rfl⟩

/-- A random identifier is drawn. -/
theorem endsSame_token (hd : d.SameNumbers e) :
    EndsSame Eq (token.run (Desk.answerAt moments) (d, n))
      (token.run (Desk.answerAt moments) (e, n)) :=
  ⟨.ok rfl, hd, rfl⟩

/-- Two causes of the same numbers are told, and reported if they are outages. -/
theorem endsSame_fail (hd : d.SameNumbers e) {a b : Cause} (houtage : a.isOutage = b.isOutage)
    (htold : a.told.SameNumbers b.told) :
    EndsSame Q ((fail a : Service α).run (Desk.answerAt moments) (d, n))
      ((fail b : Service α').run (Desk.answerAt moments) (e, n)) := by
  unfold fail
  rw [houtage]
  split
  · exact (endsSame_log hd _ _).bind fun _ _ _ _ _ _ hd => endsSame_refuse hd htold
  · exact endsSame_refuse hd htold

/-- Answers that come to the same. -/
theorem endsSame_ofAnswer (hd : d.SameNumbers e) (cause : ε → Cause) {r : Except ε α}
    {s : Except ε α'} (h : ExceptRel Eq Q r s) :
    EndsSame Q ((ofAnswer cause r).run (Desk.answerAt moments) (d, n))
      ((ofAnswer cause s).run (Desk.answerAt moments) (e, n)) := by
  cases h with
  | ok h => exact endsSame_pure hd h
  | error h =>
    subst h
    exact endsSame_fail hd rfl (.same _)

/-- A report of errors makes no difference to what they are. -/
theorem EndsSame.reporting {x : Service α} {y : Service α'}
    (hx : EndsSame Q (x.run (Desk.answerAt moments) (d, n)) (y.run (Desk.answerAt moments) (e, n)))
    (event event' : ServiceError → Event) :
    EndsSame Q ((reporting event x).run (Desk.answerAt moments) (d, n))
      ((reporting event' y).run (Desk.answerAt moments) (e, n)) := by
  change EndsSame Q (Program.run _ ((ExceptT.run x).andThen _) (d, n))
    (Program.run _ ((ExceptT.run y).andThen _) (e, n))
  rw [Program.run_andThen, Program.run_andThen]
  unfold Service.run at hx
  generalize Program.run _ (ExceptT.run x) (d, n) = left at hx ⊢
  generalize Program.run _ (ExceptT.run y) (e, n) = right at hx ⊢
  obtain ⟨r, d', k⟩ := left
  obtain ⟨s, e', k'⟩ := right
  obtain ⟨hresult, hdesk, rfl⟩ := hx
  cases hresult with
  | ok h => exact ⟨.ok h, hdesk, rfl⟩
  | error h =>
    cases h with
    | error h => exact ⟨.error (.error h), hdesk, rfl⟩
    | sumOverflow => exact ⟨.error .sumOverflow, hdesk, rfl⟩

/-! ## Lookups -/

/-- A user is looked up. -/
theorem endsSame_requireUser (hd : d.SameNumbers e) (username : String) :
    EndsSame Eq ((requireUser username).run (Desk.answerAt moments) (d, n))
      ((requireUser username).run (Desk.answerAt moments) (e, n)) := by
  rw [run_requireUser, run_requireUser, hd.users]
  cases e.users.get? ⟨username⟩ with
  | none => exact ⟨.error (.error (.same _)), hd, rfl⟩
  | some user => exact ⟨.ok rfl, hd, rfl⟩

/-- An asset is looked up. -/
theorem endsSame_requireAsset (hd : d.SameNumbers e) (assetId : AssetId) :
    EndsSame Asset.SameNumbers ((requireAsset assetId).run (Desk.answerAt moments) (d, n))
      ((requireAsset assetId).run (Desk.answerAt moments) (e, n)) := by
  have hfound := hd.assets assetId
  rw [run_requireAsset, run_requireAsset]
  generalize d.assets.get? assetId = found at hfound ⊢
  generalize e.assets.get? assetId = found' at hfound ⊢
  cases hfound with
  | none => exact ⟨.error (.error (.same _)), hd, rfl⟩
  | some h => exact ⟨.ok h, hd, rfl⟩

/-- A balance is asked for, and the lock is had in both runs or in none. -/
theorem endsSame_findBalance (hd : d.SameNumbers e) (username : String) :
    EndsSame (ExceptRel Eq (Option.Rel Balance.SameNumbers))
      ((ask (.findBalance username)).run (Desk.answerAt moments) (d, n))
      ((ask (.findBalance username)).run (Desk.answerAt moments) (e, n)) := by
  have hread : ExceptRel Eq (Option.Rel Balance.SameNumbers)
      (d.readBalance (moments n) ⟨username⟩) (e.readBalance (moments n) ⟨username⟩) := by
    unfold Desk.readBalance
    cases (moments n).stalled with
    | some ms => exact .error rfl
    | none => exact .ok (hd.balances _)
  exact ⟨.ok hread, hd, rfl⟩

/-! ## Placing an order -/

/-- Something is refused in both runs or in none. -/
theorem endsSame_guarded (hd : d.SameNumbers e) {c c' : Prop} [Decidable c] [Decidable c']
    (hc : c ↔ c') {a b : ServiceError} (hab : a.SameNumbers b) {rest : Unit → Service α}
    {rest' : Unit → Service α'}
    (h : ¬c → EndsSame Q ((rest ()).run (Desk.answerAt moments) (d, n))
      ((rest' ()).run (Desk.answerAt moments) (e, n))) :
    EndsSame Q
      ((if c then (do let r ← refuse a; rest r) else rest ()).run (Desk.answerAt moments) (d, n))
      ((if c' then (do let r ← refuse b; rest' r) else rest' ()).run (Desk.answerAt moments)
        (e, n)) := by
  by_cases hcase : c
  · rw [if_pos hcase, if_pos (hc.1 hcase)]
    exact ⟨.error (.error hab), hd, rfl⟩
  · rw [if_neg hcase, if_neg fun hc' => hcase (hc.2 hc')]
    exact h hcase

/-- The market price is positive in both runs or in none. -/
theorem endsSame_marketPrice (hd : d.SameNumbers e) (assetId : AssetId) :
    EndsSame (fun p q => p.SameNumber q ∧ 0 ≤ p.coefficient)
      ((marketPrice assetId).run (Desk.answerAt moments) (d, n))
      ((marketPrice assetId).run (Desk.answerAt moments) (e, n)) := by
  unfold marketPrice
  refine (endsSame_requireAsset hd assetId).bind fun a b d e n hasset hd => ?_
  have hprice : a.price ≤ Decimal.zero ↔ b.price ≤ Decimal.zero :=
    hasset.price.le_iff (.refl Decimal.zero)
  refine endsSame_guarded hd hprice (.same _) fun hpositive => endsSame_pure hd ⟨hasset.price, ?_⟩
  rw [← Decimal.value_le_value, Decimal.value_zero, not_le] at hpositive
  exact Decimal.value_nonneg.1 hpositive.le

/-- Orders of the same numbers are valued by the same price. -/
theorem endsSame_effectivePrice (hd : d.SameNumbers e) {r s : OrderRequest} (h : r.SameNumbers s)
    (hlimit : ∀ price, r.orderPrice = some price → 0 ≤ price.coefficient) :
    EndsSame (fun p q => p.SameNumber q ∧ 0 ≤ p.coefficient)
      ((effectivePrice r).run (Desk.answerAt moments) (d, n))
      ((effectivePrice s).run (Desk.answerAt moments) (e, n)) := by
  have hprices := h.orderPrice
  unfold effectivePrice
  rw [h.assetId]
  generalize hp : r.orderPrice = price at hprices
  generalize s.orderPrice = price' at hprices
  cases hprices with
  | none => exact endsSame_marketPrice hd _
  | some h => exact endsSame_pure hd ⟨h, hlimit _ hp⟩

/-- The user, the asset and the balance stand for an order in both runs or in none. -/
theorem endsSame_checkPlacement (hd : d.SameNumbers e) {username : Username} {assetId : AssetId}
    {orderType : OrderType} {q q' p p' : Decimal} (hq : q.SameNumber q') (hp : p.SameNumber p')
    (hqpos : 0 ≤ q.coefficient) (hppos : 0 ≤ p.coefficient) :
    EndsSame (fun _ _ => True)
      ((checkPlacement username assetId orderType q p).run (Desk.answerAt moments) (d, n))
      ((checkPlacement username assetId orderType q' p').run (Desk.answerAt moments) (e, n)) := by
  have htold {a b : RuleViolation} (h : a.message = b.message) :
      (ServiceError.validation a.message).SameNumbers (.validation b.message) :=
    h ▸ .same _
  unfold checkPlacement rule
  refine (endsSame_requireUser hd _).bind fun user _ d e n huser hd => ?_
  subst huser
  refine endsSame_guarded hd Iff.rfl (.same _) fun _ => ?_
  refine (endsSame_requireAsset hd assetId).bind fun asset asset' d e n hasset hd => ?_
  refine endsSame_guarded hd (by rw [hasset.isActive]) (.same _) fun _ => ?_
  refine (endsSame_ofExcept hd (Rules.notional_congr hq hp) fun _ _ h =>
    htold (congrArg RuleViolation.message h)).bind fun value value' d e n hvalue hd => ?_
  refine (endsSame_ofExcept hd (Rules.orderValue_congr hq hp hqpos hppos) fun _ _ h =>
    htold h).bind fun _ _ d e n _ hd => ?_
  refine (endsSame_findBalance hd _).bind fun answer answer' d e n hanswer hd => ?_
  refine (endsSame_ofAnswer hd _ hanswer).bind fun balance balance' d e n hbalance hd => ?_
  have havailable : (balance.elim .zero Balance.current).SameNumber
      (balance'.elim .zero Balance.current) := by
    cases hbalance with
    | none => exact .refl _
    | some h => exact h.current
  exact endsSame_guarded hd (and_congr_right' (havailable.lt_iff hvalue))
    (.shortage hvalue havailable) fun _ => endsSame_pure hd trivial

/-- A commit that fails is told in both runs. -/
theorem endsSame_commit (hd : d.SameNumbers e) {o p : Order} (ho : o.SameNumbers p)
    (hsign : o.totalAmount.isNegative = false) (hsign' : p.totalAmount.isNegative = false) :
    EndsSame Settlement.SameNumbers ((commit o).run (Desk.answerAt moments) (d, n))
      ((commit p).run (Desk.answerAt moments) (e, n)) := by
  obtain ⟨hresult, hdesk⟩ := hd.commit ho hsign hsign' (moments n) o.side
  rw [run_commit, run_commit, ← ho.side_eq]
  generalize d.commit (moments n) o.side o = left at hresult hdesk ⊢
  generalize e.commit (moments n) o.side p = right at hresult hdesk ⊢
  obtain ⟨answer, d'⟩ := left
  obtain ⟨answer', e'⟩ := right
  cases hresult with
  | ok h => exact ⟨.ok h, hdesk, rfl⟩
  | error h =>
    cases h with
    | sumOverflow => exact ⟨.error .sumOverflow, hdesk, rfl⟩
    | error h =>
      refine (endsSame_log hdesk _ _).bind fun _ _ _ _ _ _ hd => ?_
      cases h with
      | same e => exact endsSame_fail hd rfl (.same _)
      | shortage hrequired havailable =>
        exact endsSame_fail hd rfl (.shortage hrequired havailable)

/-- **Decisions depend on numbers, not on their spelling.** A form is sent to two desks, in the same
moments. If the forms and the desks are of the same numbers, both of them end with an order, of the
same numbers, or with the same error, or with a sum that is out of range; and the desks are of the
same numbers afterwards.

**Proof sketch.** Every step of the service is taken in both runs with values of the same numbers.
The quantity and the price are not negative once they have been checked, so that neither are the
values of the orders, which therefore are moved, and printed, in one way. -/
theorem endsSame_place (moments : Nat → Moment) {d e : Desk} (hd : d.SameNumbers e)
    {form form' : OrderForm} (hform : form.SameNumbers form') (n : Nat) :
    EndsSame OrderView.SameNumbers ((place form).run (Desk.answerAt moments) (d, n))
      ((place form').run (Desk.answerAt moments) (e, n)) := by
  unfold place field
  refine (endsSame_clock hd).bind fun now _ d e n hnow hd => ?_
  subst hnow
  refine (endsSame_ofExcept hd (hform.check now).remember fun a b h => h ▸ .same _).bind
    fun r s d e n hrequest hd => ?_
  obtain ⟨hrequest, hcheck, -⟩ := hrequest
  obtain ⟨hcorrect, rfl⟩ := OrderForm.check_eq_ok_iff.1 hcheck
  have hquantity := hcorrect.quantity.nonneg
  have hlimit (price : Decimal) (hsome : form.orderPrice = some price) : 0 ≤ price.coefficient :=
    Decimal.value_nonneg.1 (hcorrect.price price hsome).range.1.le
  refine (endsSame_effectivePrice hd hrequest hlimit).bind fun p p' d e n hprice hd => ?_
  obtain ⟨hprice, hpositive⟩ := hprice
  rw [← hrequest.username, ← hrequest.assetId, ← hrequest.orderType]
  refine ((endsSame_checkPlacement hd hrequest.quantity hprice hquantity hpositive).reporting
    _ _).bind fun _ _ d e n _ hd => ?_
  refine (endsSame_clock hd).bind fun idTime _ d e n htime hd => ?_
  subst htime
  refine (endsSame_token hd).bind fun token _ d e n htoken hd => ?_
  subst htoken
  refine (endsSame_ofAnswer hd _ (hrequest.place hprice now idTime token).remember).bind
    fun o o' d e n ho hd => ?_
  obtain ⟨ho, hplace, hplace'⟩ := ho
  have hsign := Order.isNegative_of_place hquantity hpositive hplace
  have hsign' := Order.isNegative_of_place (hrequest.quantity.nonneg_iff.1 hquantity)
    (hprice.nonneg_iff.1 hpositive) hplace'
  refine (endsSame_commit hd ho hsign hsign').bind
    fun settlement settlement' d e n hsettled hd => ?_
  refine (endsSame_log hd _ _).bind fun _ _ d e n _ hd => ?_
  exact endsSame_pure hd hsettled.order.view

/-- A quantity and a price are written with more zeros and without. The value has a place too many
and is rounded; the orders that are stored are of the same numbers. -/
theorem endsSame_place_of_zeros :
    let desk (price current : Decimal) : Desk :=
      ((Desk.empty.putUser { username := ⟨"alice"⟩, role := .customer, isActive := true }).putAsset
        (Asset.listed "BTC" "Bitcoin" price)).putBalance
          { username := ⟨"alice"⟩, current, updatedAt := .ofSeconds 1700000000 }
    let form (quantity : Decimal) : OrderForm :=
      { username := "alice", orderType := .marketSell, assetId := "BTC", quantity,
        orderPrice := none, expiresAt := none }
    let d := desk 0.333333333333333333333333333 1000
    let e := desk 0.3333333333333333333333333330 1000.00
    let served (d : Desk) (quantity : Decimal) :=
      (place (form quantity)).run (Desk.answerAt fun n => .small n) (d, 0)
    (served d 1.05).1.map (fun view => view.totalAmount) =
        .ok 0.3499999999999999999999999996 ∧
      EndsSame OrderView.SameNumbers (served d 1.05) (served e 1.050) := by
  intro desk form d e served
  have hempty : (Desk.empty.putUser
      { username := ⟨"alice"⟩, role := .customer, isActive := true }).SameNumbers
      (Desk.empty.putUser { username := ⟨"alice"⟩, role := .customer, isActive := true }) :=
    ⟨fun _ => rfl, fun _ => .none, fun _ => .none, fun _ => .none⟩
  have hasset : (Asset.listed "BTC" "Bitcoin" 0.333333333333333333333333333).SameNumbers
      (Asset.listed "BTC" "Bitcoin" 0.3333333333333333333333333330) :=
    ⟨rfl, rfl, by decide, rfl, rfl⟩
  have hdesk : d.SameNumbers e := (hempty.putAsset hasset).putBalance ⟨rfl, by decide, rfl⟩
  have hform : (form 1.05).SameNumbers (form 1.050) := ⟨rfl, rfl, rfl, by decide, .none, rfl⟩
  exact ⟨by decide +kernel, endsSame_place _ hdesk hform 0⟩

end Steps

end Service

end OrderDesk
