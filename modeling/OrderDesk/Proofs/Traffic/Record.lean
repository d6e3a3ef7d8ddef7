import OrderDesk.Proofs.Conduct
import OrderDesk.Proofs.Traffic.Contract

/-!
# The record of a run

What has been answered in a run says which versions of an order have been stored, what every call
has loaded, and why every answer was given. Of each run a few facts are recorded turn by turn; what
holds of all runs follows from the record alone.

## Main definitions

* `OrderDesk.Exchange.stored?`, `OrderDesk.Exchange.loaded?` — the order that has been stored or
  loaded.
* `OrderDesk.versions` — the stored versions of an order, one after another.
* `OrderDesk.progress` — the progress of a call.
* `OrderDesk.Lawful` — in every turn a call asks what it may and is answered from the versions.

## Main results

* `OrderDesk.Traffic.recorded_play` — the record of every run is lawful.
* `OrderDesk.Lawful.load` — what a call has loaded was stored when it was loaded.
-/

set_option autoImplicit false

namespace OrderDesk

/-! ## Orders in an exchange -/

namespace Exchange

/-- The version of an order that an exchange has stored. -/
def stored? : Exchange → Option Order
  | ⟨.saveIfStatus changed _, .ok _⟩ => some changed
  | ⟨.commit _ order, .ok _⟩ => some order
  | _ => none

/-- The order that an exchange has loaded, with the order ID that was asked for. -/
def loaded? : Exchange → Option (OrderId × Order)
  | ⟨.findOrder orderId, .ok (some order)⟩ => some (orderId, order)
  | _ => none

/-- The answer follows from the orders that are stored. -/
def Fits (stored : OrderId → Option Order) : Exchange → Prop
  | ⟨.findOrder orderId, answer⟩ => answer = .ok (stored orderId)
  | ⟨.saveIfStatus changed expected, answer⟩ =>
    match stored changed.orderId with
    | none => answer = .error (.notFound changed.orderId.text)
    | some order =>
      if order.status = expected then answer = .ok ()
      else answer = .error (.statusConflict changed.orderId.text expected order.status)
  | ⟨.commit _ order, .ok _⟩ => stored order.orderId = none
  | _ => True

/-- The desk answers from the orders that are stored. -/
theorem fits_answer (m : Moment) (request : Request) (d : Desk) :
    Fits d.orders.get? ⟨request, (Desk.answer m request d).1⟩ := by
  cases request with
  | clock | token | findUser | findAsset | findBalance | ordersOf | log => trivial
  | findOrder orderId => rfl
  | saveIfStatus changed expected =>
    obtain ⟨hget, he⟩ | ⟨order, hget, hstatus, he⟩ | ⟨order, hget, hstatus, he⟩ :=
      d.saveIfStatus_cases changed expected
    · simp [Fits, hget, Desk.answer, he]
    · simp [Fits, hget, hstatus, Desk.answer, he]
    · simp [Fits, hget, hstatus, Desk.answer, he]
  | commit side order =>
    obtain ⟨e, he⟩ | ⟨balance, -, -, hnew, he⟩ := d.commit_cases m side order
    · simp [Fits, Desk.answer, he]
    · simp [Fits, Desk.answer, he, hnew]

/-- Answering a request stores an order exactly if the exchange says so. -/
theorem get?_orders_answer (m : Moment) (request : Request) (d : Desk) (orderId : OrderId) :
    (Desk.answer m request d).2.orders.get? orderId =
      ((stored? ⟨request, (Desk.answer m request d).1⟩).filter (·.orderId = orderId)).or
        (d.orders.get? orderId) := by
  cases request with
  | clock | token | findUser | findAsset | findBalance | findOrder | ordersOf | log => rfl
  | saveIfStatus changed expected =>
    obtain ⟨-, he⟩ | ⟨_, -, -, he⟩ | ⟨_, -, -, he⟩ := d.saveIfStatus_cases changed expected
    · simp [stored?, Desk.answer, he]
    · simp [stored?, Desk.answer, he]
    · by_cases hid : changed.orderId = orderId <;> simp [stored?, Desk.answer, he, hid,
        Option.filter]
  | commit side order =>
    obtain ⟨e, he⟩ | ⟨balance, -, -, -, he⟩ := d.commit_cases m side order
    · simp [stored?, Desk.answer, he]
    · have hput : ((d.putOrder order).putBalance balance).orders = (d.putOrder order).orders := rfl
      by_cases hid : order.orderId = orderId <;> simp [stored?, Desk.answer, he, hput, hid,
        Option.filter]

end Exchange

/-! ## The record -/

/-- The **versions** of an order: the one that was stored at first, and every one that has been
stored since. -/
def versions (d : Desk) (trace : List Turn) (orderId : OrderId) : List Order :=
  (d.orders.get? orderId).toList ++
    (trace.filterMap fun turn => turn.stored?).filter (·.orderId = orderId)

/-- The progress of a call. -/
def progress (trace : List Turn) (call : Nat) : Progress :=
  (trace.filter (·.call = call)).foldl (fun p turn => p.after turn.request turn.answer) .start

/-- A **lawful** record: in every turn a call asks what it may, and the answer follows from the
latest versions. -/
inductive Lawful (d : Desk) : List Turn → Prop where
  | nil : Lawful d []
  | snoc {trace : List Turn} {turn : Turn} (before : Lawful d trace)
      (may : (progress trace turn.call).May turn.request)
      (fits : turn.Fits fun orderId => (versions d trace orderId).getLast?) :
      Lawful d (trace ++ [turn])

section Record

variable {d : Desk} {trace : List Turn} {turn : Turn} {orderId : OrderId}

/-- A turn adds at most one version. -/
theorem versions_concat :
    versions d (trace ++ [turn]) orderId =
      versions d trace orderId ++ (turn.stored?.filter (·.orderId = orderId)).toList := by
  unfold versions
  cases hstored : turn.stored? with
  | none => simp [hstored]
  | some order => by_cases hid : order.orderId = orderId <;> simp [hstored, hid, Option.filter]

/-- Later turns add versions behind the ones that are there. -/
theorem versions_append (more : List Turn) :
    versions d (trace ++ more) orderId = versions d trace orderId ++
      (more.filterMap fun turn => turn.stored?).filter (·.orderId = orderId) := by
  simp [versions]

/-- A turn is progress of its own call only. -/
theorem progress_concat (call : Nat) :
    progress (trace ++ [turn]) call =
      if turn.call = call then (progress trace call).after turn.request turn.answer
      else progress trace call :=
  @record_concat _ Progress.after .start trace turn call

/-- All versions have the order ID under which they are stored. -/
theorem orderId_of_mem_versions (hd : d.orders.Keyed fun o => o.orderId) {order : Order}
    (h : order ∈ versions d trace orderId) : order.orderId = orderId := by
  rcases List.mem_append.1 h with hfirst | hlater
  · exact hd orderId order (Option.mem_toList.1 hfirst)
  · simpa using (List.mem_filter.1 hlater).2

end Record

/-! ## Loading and storing -/

/-- An exchange that loads an order is the last that its call has loaded. -/
theorem Progress.loaded_after (p : Progress) (x : Exchange) :
    (p.after x.request x.answer).loaded = x.loaded?.or p.loaded := by
  obtain ⟨request, answer⟩ := x
  cases request with
  | clock | token | findUser | findAsset | findBalance | ordersOf | log => rfl
  | findOrder orderId =>
    match answer with
    | .ok (some order) | .ok none | .error e => rfl
  | saveIfStatus | commit => cases answer <;> rfl

/-- A call that has stored something has made its change. -/
theorem Progress.effect_after_eq_none {p : Progress} {x : Exchange}
    (h : (p.after x.request x.answer).effect = none) : p.effect = none ∧ x.stored? = none := by
  obtain ⟨request, answer⟩ := x
  cases request with
  | clock | token | findUser | findAsset | findBalance | ordersOf | log => exact ⟨h, rfl⟩
  | findOrder orderId =>
    match answer with
    | .ok (some order) | .ok none | .error e => exact ⟨h, rfl⟩
  | saveIfStatus | commit =>
    cases answer with
    | ok => cases h
    | error e => exact ⟨h, rfl⟩

/-- What is loaded is stored. -/
theorem Exchange.Fits.loaded {stored : OrderId → Option Order} {x : Exchange} (h : x.Fits stored)
    {orderId : OrderId} {order : Order} (hl : x.loaded? = some (orderId, order)) :
    stored orderId = some order := by
  unfold loaded? at hl
  split at hl
  · cases hl
    exact (Except.ok.inj h).symm
  · cases hl

/-- An exchange that loads an order stores none. -/
theorem Exchange.stored?_of_loaded? {x : Exchange} {found : OrderId × Order}
    (h : x.loaded? = some found) : x.stored? = none := by
  unfold loaded? at h
  split at h
  · rfl
  · cases h

/-- An exchange that loads an order has asked for it. -/
theorem Exchange.request_of_loaded? {x : Exchange} {orderId : OrderId} {order : Order}
    (h : x.loaded? = some (orderId, order)) : x.request = .findOrder orderId := by
  unfold loaded? at h
  split at h
  · cases h
    rfl
  · cases h

section Load

variable {d : Desk} {trace : List Turn} {call : Nat}

/-- A call without a change has stored nothing. -/
theorem stored?_eq_none_of_effect (h : (progress trace call).effect = none) {turn : Turn}
    (hmem : turn ∈ trace) (hcall : turn.call = call) : turn.stored? = none := by
  induction trace using List.reverseRecOn with
  | nil => cases hmem
  | append_singleton trace last ih =>
    rw [progress_concat] at h
    rcases List.mem_append.1 hmem with hmem | hmem
    · split at h
      · exact ih (Progress.effect_after_eq_none h).1 hmem
      · exact ih h hmem
    · obtain rfl := List.mem_singleton.1 hmem
      rw [if_pos hcall] at h
      exact (Progress.effect_after_eq_none h).2

/-- Every turn of a lawful record is lawful. -/
theorem Lawful.split {before after : List Turn} {turn : Turn}
    (h : Lawful d (before ++ turn :: after)) :
    Lawful d before ∧ (progress before turn.call).May turn.request ∧
      turn.Fits fun orderId => (versions d before orderId).getLast? := by
  induction after using List.reverseRecOn with
  | nil =>
    generalize hrecord : before ++ [turn] = record at h
    cases h with
    | nil => simp at hrecord
    | snoc hbefore may fits =>
      obtain ⟨rfl, hturn⟩ := List.append_inj' hrecord rfl
      cases hturn
      exact ⟨hbefore, may, fits⟩
  | append_singleton after last ih =>
    rw [← List.cons_append, ← List.append_assoc] at h
    generalize hrecord : before ++ turn :: after ++ [last] = record at h
    cases h with
    | nil => simp at hrecord
    | snoc hbefore may fits =>
      obtain ⟨rfl, -⟩ := List.append_inj' hrecord rfl
      exact ih hbefore

/-- What a call has loaded was stored when it was loaded. -/
theorem Lawful.load (h : Lawful d trace) {orderId : OrderId} {order : Order}
    (hl : (progress trace call).loaded = some (orderId, order)) :
    ∃ before load after, trace = before ++ load :: after ∧ load.call = call ∧
      load.loaded? = some (orderId, order) ∧ (versions d before orderId).getLast? = some order := by
  induction h with
  | nil => cases hl
  | @snoc trace turn before may fits ih =>
    have hearlier : (progress trace call).loaded = some (orderId, order) →
        ∃ before load after, trace ++ [turn] = before ++ load :: after ∧ load.call = call ∧
          load.loaded? = some (orderId, order) ∧
          (versions d before orderId).getLast? = some order := by
      intro hl
      obtain ⟨b, load, a, rfl, hrest⟩ := ih hl
      exact ⟨b, load, a ++ [turn], by simp, hrest⟩
    rw [progress_concat] at hl
    split at hl
    · next hcall =>
      rw [Progress.loaded_after] at hl
      cases hx : turn.loaded? with
      | none =>
        rw [hx] at hl
        exact hearlier hl
      | some found =>
        rw [hx] at hl
        cases hl
        exact ⟨trace, turn, [], rfl, hcall, hx, fits.loaded hx⟩
    · exact hearlier hl

end Load

/-! ## Recording a run -/

/-- What is **recorded** of a run: a lawful record whose latest versions are stored, and calls that
keep to their conduct. -/
structure Recorded (d : Desk) (calls : List Call) (s : Traffic Reply) : Prop where
  lawful : Lawful d s.trace
  current : ∀ orderId, s.settled.orders.get? orderId = (versions d s.trace orderId).getLast?
  conducted : ∀ (i : Nat) (p : Program Reply), s.calls[i]? = some p →
    ∃ call, calls[i]? = some call ∧ p.Keeps conduct call.Ends (progress s.trace i)

namespace Recorded

variable {d : Desk} {calls : List Call} {s s' : Traffic Reply}

/-- Nothing has happened yet. -/
theorem start (d : Desk) (calls : List Call) (defaultLimit : Nat) :
    Recorded d calls (Traffic.start d (calls.map (Call.program defaultLimit))) where
  lawful := .nil
  current orderId := by
    change d.orders.get? orderId = (versions d [] orderId).getLast?
    cases hget : d.orders.get? orderId <;> simp [versions, hget]
  conducted i p hp := by
    simp only [Traffic.start, List.getElem?_map, Option.map_eq_some_iff] at hp
    obtain ⟨call, hcall, rfl⟩ := hp
    exact ⟨call, hcall, call.keeps_conduct defaultLimit⟩

/-- A turn is recorded: it is lawful, and the version that it stores is the latest one. -/
theorem takes {turn : Turn} {next : turn.request.Answer → Program Reply} (h : Recorded d calls s)
    (htakes : s.Takes s' turn next) : Recorded d calls s' := by
  obtain ⟨call, hcall, hmay, hnext⟩ := h.conducted turn.call _ htakes.asked
  have hexchange : turn.toExchange =
      ⟨turn.request, (Desk.answer turn.moment turn.request s.settled).1⟩ := by
    rw [← htakes.answer]
  refine ⟨?_, fun orderId => ?_, fun i p hp => ?_⟩
  · rw [htakes.trace]
    refine h.lawful.snoc hmay ?_
    rw [← funext h.current, hexchange]
    exact Exchange.fits_answer _ _ _
  · rw [htakes.trace, htakes.settled, Exchange.get?_orders_answer, ← hexchange, h.current,
      versions_concat, List.getLast?_append]
    cases turn.stored?.filter (·.orderId = orderId) <;> rfl
  · rw [htakes.trace, progress_concat]
    by_cases hi : turn.call = i
    · subst hi
      rw [htakes.calls_self] at hp
      cases hp
      rw [if_pos rfl]
      exact ⟨call, hcall, hnext turn.answer _ rfl⟩
    · rw [htakes.calls_other hi] at hp
      rw [if_neg hi]
      exact h.conducted i p hp

/-- A step in which nothing is answered is not recorded. -/
theorem unchanged (h : Recorded d calls s) (horders : s'.settled.orders = s.settled.orders)
    (hcalls : s'.calls = s.calls) (htrace : s'.trace = s.trace) : Recorded d calls s' where
  lawful := htrace ▸ h.lawful
  current orderId := by rw [horders, htrace, h.current]
  conducted i p hp := by
    rw [htrace]
    exact h.conducted i p (hcalls ▸ hp)

/-- Every step is recorded. -/
theorem step (h : Recorded d calls s) (hlocked : s.Locked) (c : Choice) :
    Recorded d calls (s.step c) := by
  obtain hrests | ⟨turn, next, htakes, -⟩ | ⟨m, task, -, hsettled, hcalls, htrace⟩ :=
    Traffic.step_cases hlocked c
  · exact h.unchanged (by rw [hrests.settled]) hrests.calls hrests.trace
  · exact h.takes htakes
  · refine h.unchanged ?_ hcalls htrace
    rw [hsettled]
    cases task <;> rfl

end Recorded

/-- Every run is recorded. -/
theorem Traffic.recorded_play (defaultLimit : Nat) (d : Desk) (calls : List Call)
    (schedule : List Choice) :
    Recorded d calls ((start d (calls.map (Call.program defaultLimit))).play schedule) := by
  induction schedule using List.reverseRecOn with
  | nil => exact .start d calls defaultLimit
  | append_singleton schedule c ih =>
    rw [play_concat]
    exact ih.step (locked_play _ _ schedule) c

end OrderDesk
