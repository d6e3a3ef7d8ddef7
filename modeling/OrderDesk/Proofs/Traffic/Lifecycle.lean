import Mathlib.Data.List.Perm.Subperm
import OrderDesk.Proofs.Traffic.Asked

/-!
# The life of an order

A desk that starts without orders stores every order as a pending one. From there the table of
moves leads through a part of the statuses only: nothing that the service asks for ever queues an
order, so none expires either. An order is moved three times at most, and it never comes back to a
status.

## Main definitions

* `OrderDesk.Traffic.life` — the statuses in which an order is seen along a schedule, one after
  another.
* `OrderDesk.Status.IsReached` — a status in which some run leaves an order.

## Main results

* `OrderDesk.Traffic.life_eq_versions` — what is seen of an order are the statuses of its versions.
* `OrderDesk.Traffic.lifecycle_play` — which statuses are reached, and how many of them one after
  another.
-/

set_option autoImplicit false

namespace OrderDesk

/-! ## What is seen of an order -/

/-- The statuses that have been seen so far, with the one that is seen now: a status is noted unless
it is the one that was noted last. -/
def Status.note (seen : List Status) (now : Option Status) : List Status :=
  match now with
  | none => seen
  | some status => if seen.getLast? = some status then seen else seen ++ [status]

namespace Traffic

variable {α : Type}

/-- The status in which an order is stored. -/
def status? (s : Traffic α) (orderId : OrderId) : Option Status :=
  (s.desk.orders.get? orderId).map fun order => order.status

/-- The statuses that have been noted, and those that are seen after each step of a schedule. -/
def noteAlong (s : Traffic α) (orderId : OrderId) (seen : List Status) : List Choice → List Status
  | [] => seen
  | c :: schedule =>
    (s.step c).noteAlong orderId (Status.note seen ((s.step c).status? orderId)) schedule

/-- The **life** of an order: the statuses in which it is seen along a schedule, one after
another. -/
def life (s : Traffic α) (orderId : OrderId) (schedule : List Choice) : List Status :=
  s.noteAlong orderId (s.status? orderId).toList schedule

/-- What is seen along a schedule is seen up to its last step, and then after its last step. -/
theorem life_concat (s : Traffic α) (orderId : OrderId) (schedule : List Choice) (c : Choice) :
    s.life orderId (schedule ++ [c]) =
      Status.note (s.life orderId schedule) ((s.play (schedule ++ [c])).status? orderId) := by
  unfold life
  generalize (s.status? orderId).toList = seen
  induction schedule generalizing s seen with
  | nil => rfl
  | cons first schedule ih => exact ih (s.step first) _

end Traffic

/-! ## Seen and stored -/

/-- Of a chain of versions to which at most one has been added, at most the last status is new. -/
theorem Status.note_of_isChain {versions : List Order} {added : Option Order}
    (hchain : (versions ++ added.toList).IsChain Order.Succeeds) :
    note (versions.map fun o => o.status)
        ((versions ++ added.toList).getLast?.map fun o => o.status) =
      (versions ++ added.toList).map fun o => o.status := by
  cases added with
  | none =>
    rw [Option.toList_none, List.append_nil, ← List.getLast?_map]
    cases hlast : (versions.map fun o => o.status).getLast? with
    | none => rfl
    | some status => simp [note, hlast]
  | some version =>
    have hfresh : (versions.map fun o => o.status).getLast? ≠ some version.status := by
      intro hlast
      rw [List.getLast?_map, Option.map_eq_some_iff] at hlast
      obtain ⟨latest, hlatest, hstatus⟩ := hlast
      have hlt := ((List.isChain_append.1 hchain).2.2 latest hlatest version rfl).rank_lt
      rw [hstatus] at hlt
      exact Nat.lt_irrefl _ hlt
    rw [Option.toList_some, List.getLast?_concat, List.map_append, Option.map_some]
    exact if_neg hfresh

namespace Traffic

variable {d : Desk}

/-- **What is seen of an order** are the statuses of its versions: no version comes and goes without
being seen, and none has the status of the one before it. -/
theorem life_eq_versions (defaultLimit : Nat) (hd : d.orders.Keyed fun o => o.orderId)
    (calls : List Call) (schedule : List Choice) (orderId : OrderId) :
    let s := start d (calls.map (Call.program defaultLimit))
    s.life orderId schedule =
      (versions d (s.play schedule).trace orderId).map fun o => o.status := by
  intro s
  induction schedule using List.reverseRecOn with
  | nil =>
    change (d.orders.get? orderId |>.map fun o => o.status).toList =
      (versions d [] orderId).map fun o => o.status
    cases hget : d.orders.get? orderId <;> simp [versions, hget]
  | append_singleton schedule c ih =>
    have hrecorded := recorded_play defaultLimit d calls (schedule ++ [c])
    have hstatus : (s.play (schedule ++ [c])).status? orderId =
        (versions d (s.play (schedule ++ [c])).trace orderId).getLast?.map fun o => o.status := by
      rw [status?, ← orders_settled, hrecorded.current]
    obtain ⟨added, hadded⟩ : ∃ added : Option Order,
        versions d (s.play (schedule ++ [c])).trace orderId =
          versions d (s.play schedule).trace orderId ++ added.toList := by
      rw [play_concat]
      obtain hrests | ⟨turn, next, htakes, -⟩ | ⟨_, _, -, -, -, htrace⟩ :=
        step_cases (locked_play d _ schedule) c
      · exact ⟨none, by rw [hrests.trace, Option.toList_none, List.append_nil]⟩
      · exact ⟨_, by rw [htakes.trace, versions_concat]⟩
      · exact ⟨none, by rw [htrace, Option.toList_none, List.append_nil]⟩
    have hchain := hrecorded.lawful.isChain_versions hd orderId
    rw [hadded] at hchain hstatus
    rw [life_concat, ih, hstatus, hadded]
    exact Status.note_of_isChain hchain

end Traffic

/-! ## From a pending order -/

/-- The status is `PENDING`, or the table leads to it from there. -/
def Status.followsPending : Status → Bool
  | pending | confirmed | processing | completed | cancelled | failed => true
  | queued | expired => false

/-- The table does not lead away from the statuses that follow `PENDING`. -/
theorem Status.followsPending_of_canMoveTo {s target : Status} (hs : s.followsPending = true)
    (hmove : s.canMoveTo target = true) : target.followsPending = true := by
  cases s <;> cases target <;> revert hs hmove <;> decide

/-- All but two statuses follow `PENDING`. -/
theorem Status.followsPending_iff {s : Status} :
    s.followsPending = true ↔ s ≠ queued ∧ s ≠ expired := by
  cases s <;> decide

/-- No status has a rank above three. -/
theorem Status.rank_lt_four (s : Status) : s.rank < 4 := by
  cases s <;> decide

/-- In a chain of versions no status comes twice. -/
theorem Order.nodup_status {versions : List Order} (h : versions.IsChain Succeeds) :
    (versions.map fun o => o.status).Nodup := by
  rw [List.Nodup, List.pairwise_map]
  refine (pairwise_rank_lt h).imp fun hlt hstatus => ?_
  rw [hstatus] at hlt
  exact Nat.lt_irrefl _ hlt

/-- A chain of versions has four of them at most, since each has a higher rank than the one before
it. -/
theorem Order.length_le_four {versions : List Order} (h : versions.IsChain Succeeds) :
    versions.length ≤ 4 := by
  have hnodup : (versions.map fun o => o.status.rank).Nodup := by
    rw [List.Nodup, List.pairwise_map]
    exact (pairwise_rank_lt h).imp Nat.ne_of_lt
  have hsubset : (versions.map fun o => o.status.rank) ⊆ List.range 4 := by
    intro rank hrank
    obtain ⟨version, -, rfl⟩ := List.mem_map.1 hrank
    exact List.mem_range.2 version.status.rank_lt_four
  simpa using (hnodup.subperm hsubset).length_le

/-- On a desk that starts without orders every version of an order follows a pending one.

**Proof sketch.** A new order is pending, and the table does not lead away from what follows. -/
theorem Lawful.followsPending {d : Desk} {trace : List Turn} (hempty : d.orders = .empty)
    (h : Lawful d trace) {orderId : OrderId} {version : Order}
    (hversion : version ∈ versions d trace orderId) : version.status.followsPending = true := by
  have hkeyed : d.orders.Keyed fun o => o.orderId := hempty ▸ Table.keyed_empty
  refine h.forall_versions_of_succeeds (P := fun o => o.status.followsPending = true)
    (fun _ _ hnext hfollows => Status.followsPending_of_canMoveTo hfollows hnext.move) hkeyed
    ?_ ?_ orderId version hversion
  · intro orderId order hfirst
    rw [hempty] at hfirst
    cases hfirst
  · intro turn hturn side order settlement hx
    obtain ⟨before, after, rfl⟩ := List.append_of_mem hturn
    obtain ⟨-, hmay, -⟩ := h.split
    rw [show turn.request = .commit side order from congrArg Exchange.request hx] at hmay
    rw [hmay.2.2.1]
    rfl

/-! ## The statuses that are reached -/

/-- A status is **reached**: some run of a desk that starts without orders leaves an order in it. -/
def Status.IsReached (status : Status) : Prop :=
  ∃ (defaultLimit : Nat) (d : Desk) (calls : List Call) (schedule : List Choice)
    (orderId : OrderId), d.orders = .empty ∧
    ((Traffic.start d (calls.map (Call.program defaultLimit))).play schedule).status? orderId =
      some status

/-- The moves that lead from `PENDING` to a status. -/
def Status.path : Status → List Status
  | confirmed => [confirmed]
  | processing => [confirmed, processing]
  | completed => [confirmed, processing, completed]
  | cancelled => [cancelled]
  | failed => [failed]
  | pending | queued | expired => []

/-- Every status that follows `PENDING` is reached: an order is placed, and the system moves it
along the table. -/
theorem Status.isReached_of_followsPending {status : Status}
    (hfollows : status.followsPending = true) : status.IsReached := by
  let form : OrderForm :=
    { username := "alice", orderType := .marketBuy, assetId := "btc", quantity := 1,
      orderPrice := none, expiresAt := none }
  let orderId := "ord_20231114_221325_00000000_alice"
  let calls : List Call := .place form :: status.path.map fun target =>
    .update orderId target .system
  let schedule : List Choice :=
    ((List.range 14).map fun n => .turn 0 (.small n)) ++
      ((List.range 12).map fun n => .turn (n / 4 + 1) (.small (n + 14)))
  refine ⟨50, Desk.small, calls, schedule, ⟨orderId⟩, rfl, ?_⟩
  cases status with
  | pending | confirmed | processing | completed | cancelled | failed => decide +kernel
  | queued | expired => cases hfollows

namespace Traffic

/-- **The life of an order.** On a desk that starts without orders, whatever calls are served at the
same time and in whatever order they go on, every status is reached but `QUEUED` and `EXPIRED`, and
no other one. An order has four statuses one after another at most, which is three changes of
status; each change is a move of the table, and the order never comes back to a status. What was
seen last is stored.

**Proof sketch.** What is seen of an order are the statuses of its versions. The first one is
pending, each of the others is a move of the table away from the one before it, and so has a higher
rank. -/
theorem lifecycle_play :
    (∀ status : Status, status.IsReached ↔ status ≠ .queued ∧ status ≠ .expired) ∧
    ∀ (defaultLimit : Nat) (d : Desk), d.orders = .empty →
      ∀ (calls : List Call) (schedule : List Choice) (orderId : OrderId),
        let s := start d (calls.map (Call.program defaultLimit))
        let life := s.life orderId schedule
        life.length ≤ 4 ∧ life.Nodup ∧ (life.IsChain fun a b => a.canMoveTo b = true) ∧
          life.getLast? = (s.play schedule).status? orderId := by
  refine ⟨fun status => ⟨?_, ?_⟩, ?_⟩
  · rintro ⟨defaultLimit, d, calls, schedule, orderId, hempty, hstatus⟩
    rw [status?, Option.map_eq_some_iff] at hstatus
    obtain ⟨order, hget, rfl⟩ := hstatus
    have hrecorded := recorded_play defaultLimit d calls schedule
    rw [← orders_settled, hrecorded.current] at hget
    exact Status.followsPending_iff.1
      (hrecorded.lawful.followsPending hempty (List.mem_of_getLast? hget))
  · exact fun h => Status.isReached_of_followsPending (Status.followsPending_iff.2 h)
  · intro defaultLimit d hempty calls schedule orderId s life
    have hkeyed : d.orders.Keyed fun o => o.orderId := hempty ▸ Table.keyed_empty
    have hrecorded := recorded_play defaultLimit d calls schedule
    have hchain := hrecorded.lawful.isChain_versions hkeyed orderId
    have hlife : life = (versions d (s.play schedule).trace orderId).map fun o => o.status :=
      life_eq_versions defaultLimit hkeyed calls schedule orderId
    refine ⟨?_, ?_, ?_, ?_⟩
    · rw [hlife, List.length_map]
      exact Order.length_le_four hchain
    · rw [hlife]
      exact Order.nodup_status hchain
    · rw [hlife, List.isChain_map]
      exact hchain.imp fun _ _ hnext => hnext.move
    · rw [hlife, List.getLast?_map, status?, ← orders_settled, hrecorded.current]

/-- Alice places an order, the system takes it to its completion, and a cancellation in between
comes too late. The order is seen in four statuses, and the theorem says that there can be no
more. -/
theorem lifecycle_of_completed_order :
    let form : OrderForm :=
      { username := "alice", orderType := .marketBuy, assetId := "btc", quantity := 1,
        orderPrice := none, expiresAt := none }
    let orderId := "ord_20231114_221325_00000000_alice"
    let calls : List Call := .place form :: .cancel "alice" orderId ::
      [Status.confirmed, .processing, .completed].map fun target => .update orderId target .system
    let turns : List Nat :=
      List.replicate 14 0 ++ List.replicate 3 1 ++ List.replicate 4 2 ++ List.replicate 4 3 ++
        List.replicate 2 1 ++ List.replicate 4 4
    let schedule : List Choice := turns.zipIdx.map fun (call, n) => .turn call (.small n)
    let s := start Desk.small (calls.map (Call.program 50))
    let life := s.life ⟨orderId⟩ schedule
    life = [.pending, .confirmed, .processing, .completed] ∧ Desk.small.orders = .empty ∧
      life.length ≤ 4 ∧ life.Nodup ∧ (life.IsChain fun a b => a.canMoveTo b = true) ∧
        life.getLast? = (s.play schedule).status? ⟨orderId⟩ := by
  intro form orderId calls turns schedule s life
  exact ⟨by decide +kernel, rfl,
    lifecycle_play.2 50 Desk.small rfl calls schedule ⟨orderId⟩⟩

end Traffic

end OrderDesk
