import OrderDesk.Proofs.Calendar
import OrderDesk.Proofs.Traffic.Asked

/-!
# When order IDs are drawn

Whoever places an order reads the clock twice: at first for the time at which the order is created,
and later on for its order ID. In between users, assets and a balance are looked up, and other calls
go on. Order IDs are ordered by the second in which they are drawn. So they are ordered by the
second of creation as well as long as no call takes its two readings in different seconds, and they
may be in any order if one does.

## Main definitions

* `OrderDesk.placed`, `OrderDesk.readings` — the orders that have been placed in a run, and the
  readings of the clock.
* `OrderDesk.Order.IsDrawn` — an order has been made from two readings of the clock.

## Main results

* `OrderDesk.Traffic.drawn_play` — in every run each order is made from two readings of the clock.
* `OrderDesk.Traffic.order_of_ids_play` — how the order IDs of a run are ordered.
-/

set_option autoImplicit false

namespace OrderDesk

/-! ## Orders that are placed -/

/-- The order that an exchange has stored together with its money. -/
def Exchange.placed? : Exchange → Option Order
  | ⟨.commit _ order, .ok _⟩ => some order
  | _ => none

/-- Whoever has placed an order has asked for its commit. -/
theorem Exchange.request_of_placed? {x : Exchange} {order : Order} (h : x.placed? = some order) :
    ∃ side, x.request = .commit side order := by
  unfold placed? at h
  split at h
  · cases h
    exact ⟨_, rfl⟩
  · cases h

/-- The orders that have been **placed** in a run, one after another. -/
def placed (trace : List Turn) : List Order :=
  trace.filterMap fun turn => turn.placed?

/-! ## Readings of the clock -/

/-- The reading of the clock that answers a request. -/
def Request.reading? : (request : Request) → request.Answer → Option Instant
  | clock, now => some now
  | _, _ => none

/-- The **readings** of the clock in a run, one after another. -/
def readings (trace : List Turn) : List Instant :=
  trace.filterMap fun turn => turn.request.reading? turn.answer

/-- The order has been **drawn** from readings of the clock: an earlier one is the time at which it
has been created, and its order ID is from a later one. -/
def Order.IsDrawn (readings : List Instant) (order : Order) : Prop :=
  ∃ request price now idTime token, [now, idTime].Sublist readings ∧
    Order.place request price now idTime token = .ok order

/-- A new order has been drawn from readings of the clock when it is to be committed. -/
def Request.IsTimely (readings : List Instant) : Request → Prop
  | commit _ order => order.IsDrawn readings
  | clock | token | findUser _ | findAsset _ | findBalance _ | findOrder _ | ordersOf ..
  | saveIfStatus .. | log _ => True

/-- What is no commit is asked at any time. -/
theorem Request.isTimely_of_ne_commit {request : Request}
    (h : ∀ side order, request ≠ .commit side order) (readings : List Instant) :
    request.IsTimely readings := by
  cases request with
  | commit side order => exact (h side order rfl).elim
  | clock | token | findUser | findAsset | findBalance | findOrder | ordersOf | saveIfStatus
  | log => trivial

/-- A note is taken of a reading of the clock. -/
def Request.noteReading (readings : List Instant) (request : Request) (answer : request.Answer) :
    List Instant :=
  readings ++ (request.reading? answer).toList

/-- The contract that notes the readings of the clock, and by which new orders are drawn from
them. -/
def drawing : Contract (List Instant) :=
  .recording Request.IsTimely Request.noteReading

namespace Service

/-! ## Timely services -/

/-- The service keeps the contract, with the readings that there are. -/
structure Timely {α : Type} (readings : List Instant) (x : Service α) : Prop where
  keeps : Keeps drawing (fun _ _ => True) x readings

namespace Timely

variable {α β : Type} {read readings : List Instant} {P : Request → Prop} {Q : β → Prop}

/-- What has been read stays read. -/
theorem keeps_of_yields {x : Service β} (hx : Yields P Q x)
    (hP : ∀ readings request, read.Sublist readings → P request → request.IsTimely readings)
    (hread : read.Sublist readings) :
    Keeps drawing (fun readings r => read.Sublist readings ∧ ∀ a, r = .ok a → Q a) x readings :=
  Program.Keeps.recording hx.keeps hP
    (fun _ _ _ h => h.trans (List.sublist_append_left _ _)) hread

/-- A service that asks only what is timely. -/
theorem of_asksOnly {x : Service β} (hx : AsksOnly P x)
    (hP : ∀ readings request, read.Sublist readings → P request → request.IsTimely readings)
    (hread : read.Sublist readings) : Timely readings x :=
  ⟨(keeps_of_yields hx.yields hP hread).mono fun _ _ _ => trivial⟩

/-- One step after another: the rest knows what has been read before. -/
theorem bind {x : Service β} {f : β → Service α} (hx : Yields Request.IsReading Q x)
    (hread : read.Sublist readings)
    (hf : ∀ a readings, Q a → read.Sublist readings → Timely readings (f a)) :
    Timely readings (x >>= f) := by
  refine ⟨(keeps_bind x f).2 ((keeps_of_yields hx
    (fun _ _ _ h => Request.isTimely_of_ne_commit h.ne_commit _) hread).mono ?_)⟩
  rintro readings r ⟨hread, hr⟩
  cases r with
  | ok a => exact (hf a readings (hr a rfl) hread).keeps
  | error e => trivial

/-- One step after another, where the rest keeps the contract whatever has been read. -/
theorem andThen {x : Service β} {f : β → Service α} (hx : Timely readings x)
    (hf : ∀ a readings, Timely readings (f a)) : Timely readings (x >>= f) := by
  refine ⟨(keeps_bind x f).2 (hx.keeps.mono ?_)⟩
  rintro readings r -
  cases r with
  | ok a => exact (hf a readings).keeps
  | error e => trivial

/-- The clock is read. -/
theorem clock {f : Instant → Service α} (hread : read.Sublist readings)
    (hf : ∀ now readings, (read ++ [now]).Sublist readings → Timely readings (f now)) :
    Timely readings (Service.clock >>= f) := by
  refine ⟨(keeps_bind _ f).2 ⟨trivial, ?_⟩⟩
  rintro now _ rfl
  exact (hf now _ (hread.append_right [now])).keeps

end Timely

/-- A new order is drawn from two readings of the clock: the first one, and one after all
lookups. -/
theorem timely_place (form : OrderForm) : Timely [] (place form) := by
  have htoken : AsksOnly Request.IsReading token := .ask trivial
  have hcheck (event : ServiceError → Event) (request : OrderRequest) (price : Decimal) :
      AsksOnly Request.IsReading (reporting event (checkPlacement request.username request.assetId
        request.orderType request.quantity price)) :=
    .reporting (fun _ => trivial) _ (checkPlacement_asksOnly _ _ _ _ _)
  unfold place
  refine Timely.clock (List.Sublist.refl []) fun now readings hnow => ?_
  refine Timely.bind (field_asksOnly _).yields hnow fun request readings _ hnow => ?_
  refine Timely.bind ((effectivePrice_asksOnly _).mono fun _ => Request.IsPassive.isReading).yields
    hnow fun price readings _ hnow => ?_
  refine Timely.bind (hcheck _ _ _).yields hnow fun placement readings _ hnow => ?_
  refine Timely.clock hnow fun idTime readings hboth => ?_
  refine Timely.bind htoken.yields hboth fun token readings _ hboth => ?_
  refine Timely.bind (Yields.ofAnswer (fun _ => trivial) _ _) hboth
    fun order readings hplace hboth => ?_
  refine Timely.of_asksOnly (P := fun asked => asked.IsReading ∨ asked = .commit order.side order)
    ((commit_asksOnly (.inr rfl) fun _ => .inl trivial).bind fun settlement =>
      .bind (.ask (.inl trivial)) fun _ => .pure _) ?_ hboth
  rintro readings asked hboth (hasked | rfl)
  · exact Request.isTimely_of_ne_commit hasked.ne_commit readings
  · exact ⟨request, price, now, idTime, token, hboth, hplace⟩

end Service

/-- Every call draws its order from the readings of the clock. -/
theorem Call.keeps_drawing (defaultLimit : Nat) (call : Call) :
    (call.program defaultLimit).Keeps drawing (fun _ _ => True) [] := by
  suffices h : Service.Timely [] (call.service defaultLimit) from h.keeps
  cases call with
  | place form => exact (Service.timely_place form).andThen fun _ _ => ⟨trivial⟩
  | cancel | update | order | orders =>
    exact .of_asksOnly (asksOnly_ne_commit defaultLimit fun _ => by nofun)
      (fun readings _ _ h => Request.isTimely_of_ne_commit h readings) (List.Sublist.refl [])

/-! ## Readings in a run -/

/-- The readings that are noted for a call are those of its turns. -/
theorem record_noteReading (trace : List Turn) (call : Nat) :
    record Request.noteReading [] trace call = readings (trace.filter (·.call = call)) :=
  record_notes Request.reading? trace call

namespace Traffic

/-- In every run an order that is placed is made from two readings of the clock. -/
theorem drawn_play (defaultLimit : Nat) (d : Desk) (calls : List Call) (schedule : List Choice)
    {order : Order}
    (hplaced : order ∈
      placed ((start d (calls.map (Call.program defaultLimit))).play schedule).trace) :
    order.IsDrawn
      (readings ((start d (calls.map (Call.program defaultLimit))).play schedule).trace) := by
  obtain ⟨turn, hturn, hx⟩ := List.mem_filterMap.1 hplaced
  obtain ⟨side, hasks⟩ := Exchange.request_of_placed? hx
  obtain ⟨before, rest, hsplit⟩ := List.append_of_mem hturn
  have hhonored := honored_calls (fun _ => Request.IsTimely) Request.noteReading defaultLimit d
    calls (fun _ call _ => call.keeps_drawing defaultLimit) schedule
  have htimely := hhonored.asked before turn rest hsplit
  rw [hasks, record_noteReading] at htimely
  obtain ⟨request, price, now, idTime, token, hread, hplace⟩ := htimely
  refine ⟨request, price, now, idTime, token, ?_, hplace⟩
  rw [hsplit]
  have hown : (before.filter (·.call = turn.call)).Sublist (before ++ turn :: rest) :=
    List.filter_sublist.trans (List.sublist_append_left before _)
  exact hread.trans (hown.filterMap _)

/-- **How order IDs are ordered.** Whatever calls are served at the same time, in whatever order
they go on: on a clock that does not go back, each order that is placed gets its order ID at a
reading that is not earlier than its creation. Of two order IDs the one that is drawn in an earlier
second is the smaller one, and in one second it is a matter of the tokens. So an order whose order
ID is drawn in the second of its creation has a smaller order ID than every order of a later second.

**Proof sketch.** A call makes its order from two of its own readings, which are among those of the
run. The text of a reading has a fixed width and stands in front of the token. -/
theorem order_of_ids_play (defaultLimit : Nat) (d : Desk) (calls : List Call)
    (schedule : List Choice) :
    let trace := ((start d (calls.map (Call.program defaultLimit))).play schedule).trace
    (readings trace).Pairwise (· ≤ ·) → (∀ t ∈ readings trace, t.IsCivil) →
    ∀ a ∈ placed trace, ∀ b ∈ placed trace,
      ∃ (s t : Instant) (u v : Uuid),
        a.orderId = .standard s u (some a.username.text) ∧ a.createdAt ≤ s ∧
        b.orderId = .standard t v (some b.username.text) ∧ b.createdAt ≤ t ∧
        (a.orderId.text < b.orderId.text ↔ s.seconds < t.seconds ∨ s.seconds = t.seconds ∧
          OrderId.token u ++ OrderId.userSuffix (some a.username.text) <
            OrderId.token v ++ OrderId.userSuffix (some b.username.text)) ∧
        (s.seconds = a.createdAt.seconds → a.createdAt.seconds < b.createdAt.seconds →
          a.orderId.text < b.orderId.text) := by
  intro trace hsorted hcivil a ha b hb
  have hdrawn : ∀ order ∈ placed trace, ∃ t u,
      order.orderId = .standard t u (some order.username.text) ∧ order.createdAt ≤ t ∧
        t.IsCivil := by
    intro order hplaced
    obtain ⟨request, price, now, idTime, token, hread, hplace⟩ :=
      drawn_play defaultLimit d calls schedule hplaced
    have hnew := Order.isNew_of_place hplace
    refine ⟨idTime, token, ?_, ?_, hcivil _ (hread.subset (by simp))⟩
    · rw [hnew.orderId, hnew.username]
    · rw [hnew.createdAt]
      simpa using hsorted.sublist hread
  obtain ⟨s, u, haid, hacreated, hs⟩ := hdrawn a ha
  obtain ⟨t, v, hbid, hbcreated, ht⟩ := hdrawn b hb
  have hiff := @OrderId.standard_lt_iff s t hs ht u v (some a.username.text)
    (some b.username.text)
  rw [← haid, ← hbid] at hiff
  refine ⟨s, t, u, v, haid, hacreated, hbid, hbcreated, hiff, fun hsame hearlier => hiff.2 ?_⟩
  rw [Instant.le_def] at hbcreated
  exact .inl (by omega)

/-- Alice places one order after the other, and each call takes its readings in one second. The
order IDs are ordered by these seconds. -/
theorem order_of_ids_of_separate_calls :
    let form : OrderForm :=
      { username := "alice", orderType := .marketBuy, assetId := "btc", quantity := 0.50,
        orderPrice := none, expiresAt := none }
    let calls : List Call := [.place form, .place form]
    let schedule : List Choice :=
      List.replicate 14 (.turn 0 (.small 0)) ++ List.replicate 14 (.turn 1 (.small 5))
    let trace := ((start Desk.small (calls.map (Call.program 50))).play schedule).trace
    (readings trace).Pairwise (· ≤ ·) ∧ (∀ t ∈ readings trace, t.IsCivil) ∧
      ∃ a ∈ placed trace, ∃ b ∈ placed trace, a.createdAt.seconds < b.createdAt.seconds ∧
        ∃ (s t : Instant) (u v : Uuid), a.orderId = .standard s u (some "alice") ∧
          b.orderId = .standard t v (some "alice") ∧
          (a.orderId.text < b.orderId.text ↔ s.seconds < t.seconds ∨ s.seconds = t.seconds ∧
            OrderId.token u ++ OrderId.userSuffix (some "alice") <
              OrderId.token v ++ OrderId.userSuffix (some "alice")) := by
  intro form calls schedule trace
  have hsorted : (readings trace).Pairwise (· ≤ ·) := by decide +kernel
  have hcivil : ∀ t ∈ readings trace, t.IsCivil := by decide +kernel
  have horders : ∃ a ∈ placed trace, ∃ b ∈ placed trace,
      a.createdAt.seconds < b.createdAt.seconds ∧ a.username.text = "alice" ∧
        b.username.text = "alice" := by
    decide +kernel
  obtain ⟨a, ha, b, hb, hearlier, haname, hbname⟩ := horders
  obtain ⟨s, t, u, v, haid, -, hbid, -, hiff, -⟩ :=
    order_of_ids_play 50 Desk.small calls schedule hsorted hcivil a ha b hb
  rw [haname] at haid hiff
  rw [hbname] at hbid hiff
  exact ⟨hsorted, hcivil, a, ha, b, hb, hearlier, s, t, u, v, haid, hbid, hiff⟩

/-- Alice places two orders at the same time. The first call reads the clock, the second one is
served within the next second, and only then the first call draws its order ID. So the order that
has been created in the earlier second has the larger order ID. -/
theorem order_of_ids_of_overlapping_calls :
    let form : OrderForm :=
      { username := "alice", orderType := .marketBuy, assetId := "btc", quantity := 0.50,
        orderPrice := none, expiresAt := none }
    let calls : List Call := [.place form, .place form]
    let schedule : List Choice :=
      .turn 0 (.small 0) :: List.replicate 14 (.turn 1 (.small 1)) ++
        List.replicate 13 (.turn 0 (.small 2))
    let trace := ((start Desk.small (calls.map (Call.program 50))).play schedule).trace
    (readings trace).Pairwise (· ≤ ·) ∧ (∀ t ∈ readings trace, t.IsCivil) ∧
      ∃ a ∈ placed trace, ∃ b ∈ placed trace, a.createdAt.seconds < b.createdAt.seconds ∧
        ¬a.orderId.text < b.orderId.text := by
  intro form calls schedule trace
  exact ⟨by decide +kernel, by decide +kernel, by decide +kernel⟩

end Traffic

end OrderDesk
