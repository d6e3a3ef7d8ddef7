import OrderDesk.Proofs.Placing

/-!
# The point at which an order is placed

While users and assets stay as they are, most of what placing an order asks is answered the same way
at any time. There is one request at which the call takes effect: it looks at the balance and turns
the order away, or it commits. From then on its reply is settled.

## Main definitions

* `OrderDesk.Desk.Alike` — two desks have the same users and assets.
* `OrderDesk.Program.ComesTo` — a program asks for neither orders nor money and ends with a result.
* `OrderDesk.Program.HasPoint` — a program has one request at which it takes effect.

## Main results

* `OrderDesk.Program.HasPoint.step` — one request of such a program, answered at any time.
* `OrderDesk.OrderForm.hasPoint_program` — placing an order has such a point.

## Design

A look at the balance that does not turn the order away is no such point: the balance may change
until the commit. It is enough that on every desk the rest of the call comes to what the call would
have come to with the look, since a commit turns away the same orders for the same reason.
-/

set_option autoImplicit false

namespace OrderDesk

/-! ## Requests that are answered the same way -/

/-- Two desks are **alike**: they have the same users and assets. -/
structure Desk.Alike (d d' : Desk) : Prop where
  users : d'.users = d.users
  assets : d'.assets = d.assets

namespace Desk.Alike

variable {d d' d'' : Desk}

/-- A desk is like itself. -/
theorem refl (d : Desk) : Alike d d :=
  ⟨rfl, rfl⟩

/-- Desks that are like a desk in between are alike. -/
theorem trans (h : Alike d d') (h' : Alike d' d'') : Alike d d'' :=
  ⟨h'.users.trans h.users, h'.assets.trans h.assets⟩

/-- Answering a request leaves users and assets as they are. -/
theorem answer (d : Desk) (m : Moment) (request : Request) :
    Alike d (Desk.answer m request d).2 := by
  cases request with
  | clock | token | findUser | findAsset | findBalance | findOrder | ordersOf | log => exact refl d
  | saveIfStatus order expected =>
    obtain ⟨-, he⟩ | ⟨_, -, -, he⟩ | ⟨_, -, -, he⟩ := d.saveIfStatus_cases order expected <;>
      exact (congrArg Prod.snd he) ▸ ⟨rfl, rfl⟩
  | commit side order =>
    obtain ⟨e, he⟩ | ⟨balance, -, -, -, he⟩ := d.commit_cases m side order <;>
      exact (congrArg Prod.snd he) ▸ ⟨rfl, rfl⟩

/-- Requests about neither orders nor money are answered the same way, and change nothing. -/
theorem answer_passive (h : Alike d d') (m : Moment) {request : Request}
    (hp : request.IsPassive) :
    Desk.answer m request d' = ((Desk.answer m request d).1, d') := by
  cases request with
  | clock | token | log => rfl
  | findUser username => simp [Desk.answer, h.users]
  | findAsset assetId => simp [Desk.answer, h.assets]
  | findBalance | findOrder | ordersOf | saveIfStatus | commit => exact hp.elim

end Desk.Alike

/-- A look at a balance that has the lock in time. -/
theorem Desk.answer_findBalance {m : Moment} (hm : m.stalled = none) (username : Username)
    (d : Desk) :
    Desk.answer m (.findBalance username.text) d = (.ok (d.balances.get? username), d) := by
  simp [Desk.answer, Desk.readBalance, hm]

/-- What an answer to a commit says of a balance that does not cover an order: the value of the
order and the money that is there. -/
def Request.shortage? : (request : Request) → request.Answer → Option (Decimal × Decimal)
  | .commit .., .error (.error (.insufficientBalance required available)) =>
    some (required, available)
  | _, _ => none

/-- A request about neither orders nor money is answered without such words. -/
theorem Request.shortage?_of_isPassive {request : Request} (h : request.IsPassive)
    (answer : request.Answer) : request.shortage? answer = none := by
  cases request <;> first | rfl | exact h.elim

namespace Program

variable {α β : Type} {m : Moment} {d d' : Desk}

/-- The program **comes to** a result: on every desk like this one it asks for neither orders nor
money and ends with the result. -/
def ComesTo (m : Moment) (d : Desk) (result : α) : Program α → Prop
  | done a => a = result
  | ask request next =>
    request.IsPassive ∧ (next (Desk.answer m request d).1).ComesTo m d result

/-- A program that comes to a result ends with it, and leaves the desk as it is. -/
theorem ComesTo.run {result : α} {p : Program α} (h : p.ComesTo m d result) (hd : d.Alike d') :
    p.run (Desk.answer m) d' = (result, d') := by
  induction p with
  | done a =>
    obtain rfl : a = result := h
    rfl
  | ask request next ih =>
    rw [Program.run, hd.answer_passive m h.1]
    exact ih _ h.2

/-- A program that asks for neither orders nor money comes to a result. -/
theorem exists_comesTo {x : Service α} (h : Service.AsksOnly Request.IsPassive x) (m : Moment)
    (d : Desk) : ∃ result, (ExceptT.run x).ComesTo m d result := by
  unfold Service.AsksOnly Service.Keeps at h
  generalize ExceptT.run x = p at h
  induction p with
  | done a => exact ⟨a, rfl⟩
  | ask request next ih =>
    obtain ⟨result, hresult⟩ := ih (Desk.answer m request d).1 (h.2 _ () trivial)
    exact ⟨result, h.1, hresult⟩

/-! ## One point -/

/-- The program **has a point** on desks like this one: it takes effect at one request, by a look at
the balance that decides it or by a commit. -/
inductive HasPoint (m : Moment) (d : Desk) : Program Reply → Prop where
  | done (reply : Reply) : HasPoint m d (.done reply)
  | passive {request : Request} {next : request.Answer → Program Reply}
      (hpassive : request.IsPassive) (hnext : HasPoint m d (next (Desk.answer m request d).1)) :
      HasPoint m d (.ask request next)
  /-- A look at the balance decides the program on some desks. On the others it makes no
  difference. -/
  | look {username : String}
      {next : (Request.findBalance username).Answer → Program Reply} (decides : Desk → Prop)
      (hdecides : ∀ d', d.Alike d' → decides d' →
        ∃ reply, (next (Desk.answer m (.findBalance username) d').1).ComesTo m d reply)
      (hopen : ∀ d', d.Alike d' → ¬decides d' →
        HasPoint m d (next (Desk.answer m (.findBalance username) d').1))
      (hsame : ∀ d' d'', d.Alike d' → d.Alike d'' → ¬decides d' →
        (next (Desk.answer m (.findBalance username) d').1).run (Desk.answer m) d'' =
          (ask (.findBalance username) next).run (Desk.answer m) d'') :
      HasPoint m d (.ask (.findBalance username) next)
  /-- A commit decides the program, and what it does not cover is told as it is. A program whose
  commit succeeds still asks for something. -/
  | commit {side : Side} {order : Order}
      {next : (Request.commit side order).Answer → Program Reply}
      (hdecides : ∀ answer, ∃ reply, (next answer).ComesTo m d reply ∧
        ∀ required available,
          Request.shortage? (.commit side order) answer = some (required, available) →
          reply = .error (.error (.insufficientBalance required available)))
      (hgoesOn : ∀ settlement, ∃ request more, next (.ok settlement) = .ask request more) :
      HasPoint m d (.ask (.commit side order) next)

/-- One request of a program that has a point, answered on a desk like this one: the program has
still a point and comes to the same on every desk, or it has come to its reply. -/
theorem HasPoint.step {request : Request} {next : request.Answer → Program Reply}
    (h : HasPoint m d (.ask request next)) (hd : d.Alike d') :
    ((next (Desk.answer m request d').1).HasPoint m d ∧ (Desk.answer m request d').2 = d' ∧
      request.shortage? (Desk.answer m request d').1 = none ∧
      ∀ d'', d.Alike d'' → (next (Desk.answer m request d').1).run (Desk.answer m) d'' =
        (ask request next).run (Desk.answer m) d'') ∨
    ∃ reply, (next (Desk.answer m request d').1).ComesTo m d reply ∧
      ∀ required available,
        request.shortage? (Desk.answer m request d').1 = some (required, available) →
        reply = .error (.error (.insufficientBalance required available)) := by
  cases h with
  | passive hpassive hnext =>
    have hanswer := hd.answer_passive m hpassive
    refine .inl ⟨by rwa [hanswer], by rw [hanswer], ?_, fun d'' hd'' => ?_⟩
    · exact Request.shortage?_of_isPassive hpassive _
    · rw [hanswer, Program.run, hd''.answer_passive m hpassive]
  | @look username _ decides hdecides hopen hsame =>
    by_cases hdecided : decides d'
    · obtain ⟨reply, hreply⟩ := hdecides d' hd hdecided
      exact .inr ⟨reply, hreply, fun _ _ h => by cases h⟩
    · exact .inl ⟨hopen d' hd hdecided, rfl, rfl, fun d'' hd'' => hsame d' d'' hd hd'' hdecided⟩
  | commit hdecides hgoesOn => exact .inr (hdecides _)

/-- A program that has a point may be preceded by what comes to a result. -/
theorem hasPoint_bind {x : Service α} {f : α → Service Receipt}
    {result : Except (Failure ServiceError) α} (hx : (ExceptT.run x).ComesTo m d result)
    (hf : ∀ a, result = .ok a → (ExceptT.run (f a)).HasPoint m d) :
    (ExceptT.run (x >>= f)).HasPoint m d := by
  change ((ExceptT.run x).andThen (ExceptT.bindCont f)).HasPoint m d
  generalize ExceptT.run x = p at hx
  induction p with
  | done r =>
    obtain rfl : r = result := hx
    cases r with
    | ok a => exact hf a rfl
    | error e => exact .done _
  | ask request next ih => exact .passive hx.1 (ih _ hx.2)

end Program

/-! ## The point of placing an order -/

namespace Service

/-- The order buys, and it costs more than there is. -/
def Offer.IsShort (o : Offer) (balance : Option Balance) : Prop :=
  o.request.orderType.isBuy ∧ balance.elim .zero Balance.current < o.value

instance (o : Offer) (balance : Option Balance) : Decidable (o.IsShort balance) :=
  inferInstanceAs (Decidable (_ ∧ _))

/-- What is told about an order that costs more than there is. -/
def Offer.shortage (o : Offer) (balance : Option Balance) : ServiceError :=
  .insufficientBalance o.value (balance.elim .zero Balance.current)

/-- The requests of the second part. -/
theorem exists_run_afford {α : Type} (o : Offer) (f : Decimal → Service α) :
    ∃ next, ExceptT.run (afford o >>= f) = .ask (.findBalance o.request.username.text) next ∧
      ∀ balance, next (.ok balance) =
        if o.IsShort balance then
          .ask (.log (rejection o.request (o.shortage balance))) fun _ =>
            .done (.error (.error (o.shortage balance)))
        else ExceptT.run (f (balance.elim .zero Balance.current)) := by
  refine ⟨_, rfl, fun balance => ?_⟩
  change ExceptT.run (reporting (rejection o.request)
    (if o.IsShort balance then refuse (o.shortage balance) >>= fun _ =>
      pure (balance.elim .zero Balance.current)
    else pure (balance.elim .zero Balance.current)) >>= f) = _
  by_cases hshort : o.IsShort balance
  · rw [if_pos hshort, if_pos hshort]
    rfl
  · rw [if_neg hshort, if_neg hshort]
    rfl

/-- A cause that is told is the end. -/
theorem fail_bind {α β : Type} (cause : Cause) (f : α → Service β) :
    (fail cause : Service α) >>= f = fail cause := by
  unfold fail
  split <;> rfl

/-- An order is committed, with a receipt. -/
def book (order : Order) : Service Receipt := do
  let settlement ← commit order
  log (.orderCreated settlement.order settlement.balance)
  return .order settlement.order.view

/-- The last part of placing an order, with a receipt. -/
def receipt (o : Offer) : Service Receipt := do
  return .order (← conclude o)

/-- The requests of the last part: the order is made, and the rules refuse it or it is committed. -/
theorem run_receipt (o : Offer) :
    ExceptT.run (receipt o) = .ask .clock fun idTime => .ask .token fun token => ExceptT.run
      (match Order.place o.request o.price o.now idTime token with
        | .ok order => book order
        | .error e => fail (.order e)) := by
  have hrest : ∀ idTime token, (do
      let order ← ofAnswer Cause.order (Order.place o.request o.price o.now idTime token)
      let settlement ← commit order
      log (.orderCreated settlement.order settlement.balance)
      return settlement.order.view : Service OrderView) >>= (fun view => pure (.order view)) =
      match Order.place o.request o.price o.now idTime token with
      | .ok order => book order
      | .error e => fail (.order e) := by
    intro idTime token
    cases Order.place o.request o.price o.now idTime token with
    | ok order => simp only [ofAnswer, book, pure_bind, bind_assoc]
    | error e => simp only [ofAnswer, fail_bind]
  simp only [← hrest]
  rfl

/-- Committing an order has a point: the commit. -/
theorem hasPoint_book (m : Moment) (d : Desk) (order : Order) :
    (ExceptT.run (book order)).HasPoint m d := by
  refine .commit (fun answer => ?_) fun settlement => ⟨_, _, rfl⟩
  cases answer with
  | ok settlement =>
    exact ⟨.ok (.order settlement.order.view), ⟨trivial, trivial, rfl⟩, fun _ _ h => by cases h⟩
  | error failure =>
    cases failure with
    | sumOverflow => exact ⟨.error .sumOverflow, rfl, fun _ _ h => by cases h⟩
    | error e =>
      cases e with
      | insufficientBalance required available =>
        refine ⟨.error (.error (.insufficientBalance required available)), ⟨trivial, rfl⟩, ?_⟩
        rintro _ _ ⟨⟩
        rfl
      | lockAcquisition | databaseOperation =>
        exact ⟨.error (.error .unavailable), ⟨trivial, trivial, rfl⟩, fun _ _ h => by cases h⟩

/-- A commit turns away an order that costs more than there is. -/
theorem run_book_of_short {m : Moment} {d : Desk} {order : Order} (hm : m.stalled = none)
    (hside : order.side = .buy)
    (hshort : (d.balanceOf order.username m.now).current < order.totalAmount) :
    (ExceptT.run (book order)).run (Desk.answer m) d =
      (.error (.error (.insufficientBalance order.totalAmount
        (d.balanceOf order.username m.now).current)), d) := by
  have hcovers : (d.balanceOf order.username m.now).covers order.totalAmount = false := by
    simpa [Balance.covers, Decimal.not_le] using hshort
  have hcommit : d.commit m order.side order =
      (.error (.error (.insufficientBalance order.totalAmount
        (d.balanceOf order.username m.now).current)), d) := by
    simp [Desk.commit, Desk.settle, Desk.charge, hm, hside, hcovers, bind, Except.bind]
  change Program.run (Desk.answer m) (.ask (.commit order.side order) _) d = _
  rw [Program.run, show Desk.answer m (.commit order.side order) d = _ from hcommit]
  rfl

/-- The order of an offer, after clock and token. -/
theorem receipt_run (o : Offer) (m : Moment) (d : Desk) :
    (ExceptT.run (receipt o)).run (Desk.answer m) d = (ExceptT.run
      (match Order.place o.request o.price o.now m.now m.token with
        | .ok order => book order
        | .error e => fail (.order e))).run (Desk.answer m) d := by
  rw [run_receipt]
  rfl

/-- The order of an offer has the value of the offer. -/
theorem Offer.totalAmount_eq {m : Moment} {o : Offer} {order : Order}
    (hplace : Order.place o.request o.price o.now m.now m.token = .ok order) :
    order.totalAmount = o.value :=
  Except.ok.inj ((Order.isNew_of_place hplace).totalAmount.symm.trans o.notional_eq)

/-- An order is short if it buys and costs more than the balance that the commit looks at. -/
theorem Offer.isShort_iff {m : Moment} {o : Offer} {order : Order} (d : Desk)
    (hplace : Order.place o.request o.price o.now m.now m.token = .ok order) :
    o.IsShort (d.balances.get? o.request.username) ↔
      order.side = .buy ∧ (d.balanceOf order.username m.now).current < order.totalAmount := by
  have hnew := Order.isNew_of_place hplace
  have hside : o.request.orderType.isBuy ↔ order.side = .buy := by
    unfold Order.side OrderType.isBuy
    rw [hnew.orderType, beq_iff_eq]
  rw [d.current_balanceOf, hnew.username, Offer.totalAmount_eq hplace, ← hside]
  rfl

/-- The commit turns away what a look at the balance would have turned away, for the same reason. -/
theorem receipt_run_of_short {m : Moment} {d : Desk} {o : Offer} {order : Order}
    (hm : m.stalled = none)
    (hplace : Order.place o.request o.price o.now m.now m.token = .ok order)
    (hshort : o.IsShort (d.balances.get? o.request.username)) :
    (ExceptT.run (receipt o)).run (Desk.answer m) d =
      (.error (.error (o.shortage (d.balances.get? o.request.username))), d) := by
  obtain ⟨hside, hless⟩ := (Offer.isShort_iff d hplace).1 hshort
  rw [receipt_run, hplace]
  dsimp only
  rw [run_book_of_short hm hside hless, d.current_balanceOf,
    (Order.isNew_of_place hplace).username, Offer.totalAmount_eq hplace]
  rfl

/-- Looking at the balance and committing has a point.

**Proof sketch.** If the rules refuse the order, the look at the balance decides everything. If not,
it decides by turning the order away; otherwise the commit decides, and on every desk it turns away
what a look would have turned away there. -/
theorem hasPoint_afford {m : Moment} (hm : m.stalled = none) (d : Desk) (o : Offer) :
    (ExceptT.run (afford o >>= fun _ => receipt o)).HasPoint m d := by
  obtain ⟨next, hrun, hnext⟩ := exists_run_afford o fun _ => receipt o
  have hanswer := Desk.answer_findBalance hm o.request.username
  rw [hrun]
  cases hplace : Order.place o.request o.price o.now m.now m.token with
  | error e =>
    refine .look (fun _ => True) (fun d' _ _ => ?_) (fun _ _ h => absurd trivial h)
      fun _ _ _ _ h => absurd trivial h
    rw [hanswer, hnext]
    split
    · exact ⟨_, trivial, rfl⟩
    · rw [run_receipt]
      have htold : AsksOnly Request.IsPassive (fail (.order e) : Service Receipt) :=
        .fail (fun _ => trivial) _
      obtain ⟨reply, hreply⟩ := Program.exists_comesTo htold m d
      refine ⟨reply, trivial, trivial, ?_⟩
      simpa only [Desk.answer, hplace] using hreply
  | ok order =>
    refine .look (fun d' => o.IsShort (d'.balances.get? o.request.username))
      (fun d' _ hshort => ?_) (fun d' _ hshort => ?_) fun d' d'' _ _ hshort => ?_
    · rw [hanswer, hnext, if_pos hshort]
      exact ⟨_, trivial, rfl⟩
    · rw [hanswer, hnext, if_neg hshort, run_receipt]
      refine .passive trivial (.passive trivial ?_)
      simp only [Desk.answer, hplace]
      exact hasPoint_book m d order
    · rw [Program.run, hanswer, hanswer, hnext, if_neg hshort]
      dsimp only
      rw [hnext]
      by_cases hshort' : o.IsShort (d''.balances.get? o.request.username)
      · rw [if_pos hshort', receipt_run_of_short hm hplace hshort']
        rfl
      · rw [if_neg hshort']

end Service

/-- The requests of placing an order are those of its parts. -/
theorem OrderForm.program_eq (defaultLimit : Nat) (form : OrderForm) :
    (Call.place form).program defaultLimit =
      ExceptT.run (Service.offer form >>= fun o => Service.afford o >>= fun _ =>
        Service.receipt o) := by
  simp only [Call.program, Call.service, Service.place_eq, Service.receipt, bind_assoc]

/-- Placing an order has a point. -/
theorem OrderForm.hasPoint_program {m : Moment} (hm : m.stalled = none) (d : Desk)
    (defaultLimit : Nat) (form : OrderForm) :
    ((Call.place form).program defaultLimit).HasPoint m d := by
  obtain ⟨result, hresult⟩ := Program.exists_comesTo (Service.offer_asksOnly form) m d
  rw [form.program_eq]
  exact Program.hasPoint_bind hresult fun o _ => Service.hasPoint_afford hm d o

end OrderDesk
