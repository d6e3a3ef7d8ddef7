import OrderDesk.Proofs.Traffic.Record

/-!
# The versions of an order in traffic

A change of an order is stored if the order is still in the status in which it was loaded, and then
it replaces the whole order. This is safe although only the status is compared: the table of moves
never leads back to a status, so an order in the same status is the same version.

## Main definitions

* `OrderDesk.Prepared` — a call that is about to store a change has loaded the order.
* `OrderDesk.VersionHistory` — how the versions of all orders follow each other in a run.

## Main results

* `OrderDesk.Lawful.isChain_versions` — the versions of an order form a chain.
* `OrderDesk.Traffic.versionHistory_play` — the history of versions of every run.
-/

set_option autoImplicit false

namespace OrderDesk

/-! ## A change and the order that it changes -/

/-- A call that is about to store a change is **prepared**: it has loaded the order under its order
ID, the change is a move of this order and it expects the status of this order. -/
structure Prepared (trace : List Turn) (call : Nat) (changed : Order) (expected : Status)
    (order : Order) : Prop where
  loaded : (progress trace call).loaded = some (changed.orderId, order)
  status : expected = order.status
  moved : changed = order.withStatus changed.status changed.updatedAt
  move : order.status.canMoveTo changed.status = true
  /-- The call has not changed anything yet. -/
  idle : (progress trace call).effect = none

section Prepared

variable {d : Desk} {trace : List Turn} {call : Nat} {changed order : Order} {expected : Status}

/-- Whoever may store a change is prepared. -/
theorem Lawful.prepared (hd : d.orders.Keyed fun o => o.orderId) (h : Lawful d trace)
    (hmay : (progress trace call).May (.saveIfStatus changed expected)) :
    ∃ order, Prepared trace call changed expected order := by
  obtain ⟨hidle, key, order, target, now, hloaded, rfl, hmove, rfl⟩ := hmay
  obtain ⟨before, load, after, -, -, -, hlast⟩ := h.load hloaded
  have hkey : order.orderId = key := orderId_of_mem_versions hd (List.mem_of_getLast? hlast)
  exact ⟨order, hkey ▸ hloaded, rfl, rfl, hmove, hidle⟩

/-- The change is the next version. -/
theorem Prepared.succeeds (hp : Prepared trace call changed expected order) :
    Order.Succeeds order changed := by
  rw [hp.moved]
  exact Order.succeeds_withStatus _ hp.move

/-- The loaded order is one of the versions. -/
theorem Prepared.mem_versions (hp : Prepared trace call changed expected order)
    (h : Lawful d trace) : order ∈ versions d trace changed.orderId := by
  obtain ⟨before, load, after, rfl, -, -, hlast⟩ := h.load hp.loaded
  rw [versions_append]
  exact List.mem_append_left _ (List.mem_of_getLast? hlast)

/-- A stored order in the expected status is the version that the call has loaded. -/
theorem Prepared.eq_of_status (hp : Prepared trace call changed expected order)
    (h : Lawful d trace) (hchain : (versions d trace changed.orderId).IsChain Order.Succeeds)
    {stored : Order} (hlast : (versions d trace changed.orderId).getLast? = some stored)
    (hstatus : stored.status = expected) : stored = order :=
  (Order.eq_of_succeeds_of_status_eq hchain (hp.mem_versions h) hlast
    (hp.status.symm.trans hstatus.symm)).symm

/-- Some order is stored when a change is. -/
theorem Prepared.exists_last (hp : Prepared trace call changed expected order)
    (h : Lawful d trace) : ∃ stored, (versions d trace changed.orderId).getLast? = some stored := by
  rw [← Option.isSome_iff_exists, List.getLast?_isSome]
  exact List.ne_nil_of_mem (hp.mem_versions h)

end Prepared

/-! ## The chain of versions -/

section Chain

variable {d : Desk} {trace : List Turn}

/-- What has been stored was a change of the stored order, or a new order. -/
theorem Lawful.stored_cases (hd : d.orders.Keyed fun o => o.orderId) (h : Lawful d trace)
    (hchain : ∀ orderId, (versions d trace orderId).IsChain Order.Succeeds) {turn : Turn}
    (hmay : (progress trace turn.call).May turn.request)
    (hfits : turn.Fits fun orderId => (versions d trace orderId).getLast?) {version : Order}
    (hstored : turn.stored? = some version) :
    (∃ expected order, turn.toExchange = ⟨.saveIfStatus version expected, .ok ()⟩ ∧
      Prepared trace turn.call version expected order ∧
      (versions d trace version.orderId).getLast? = some order) ∨
    (∃ side settlement, turn.toExchange = ⟨.commit side version, .ok settlement⟩ ∧
      versions d trace version.orderId = []) := by
  obtain ⟨⟨request, answer⟩, call, moment⟩ := turn
  unfold Exchange.stored? at hstored
  split at hstored
  · next changed expected u hx =>
    cases hx
    cases hstored
    obtain ⟨order, hp⟩ := h.prepared hd hmay
    obtain ⟨stored, hlast⟩ := hp.exists_last h
    refine .inl ⟨expected, order, rfl, hp, ?_⟩
    simp only [Exchange.Fits, hlast] at hfits
    split at hfits
    · next hstatus => rw [hlast, hp.eq_of_status h (hchain _) hlast hstatus]
    · cases hfits
  · next side order settlement hx =>
    cases hx
    cases hstored
    exact .inr ⟨side, settlement, rfl, List.getLast?_eq_none_iff.1 hfits⟩
  · cases hstored

/-- The versions of every order form a chain: each is followed by its next version.

**Proof sketch.** Induction on the record. A change that is stored was made from a version that the
call had loaded, and the stored order is in the status of that version. Along the chain so far no
status comes twice, so the two are the same and the change is the next version. -/
theorem Lawful.isChain_versions (hd : d.orders.Keyed fun o => o.orderId) (h : Lawful d trace)
    (orderId : OrderId) : (versions d trace orderId).IsChain Order.Succeeds := by
  induction h generalizing orderId with
  | nil => cases hget : d.orders.get? orderId <;> simp [versions, hget]
  | @snoc trace turn before may fits ih =>
    rw [versions_concat]
    cases hadded : turn.stored?.filter (·.orderId = orderId) with
    | none => simpa using ih orderId
    | some version =>
      obtain ⟨hstored, hid⟩ := Option.filter_eq_some_iff.1 hadded
      obtain rfl := of_decide_eq_true hid
      obtain ⟨expected, order, -, hp, hlast⟩ | ⟨side, settlement, -, hnil⟩ :=
        before.stored_cases hd ih may fits hstored
      · refine (ih _).append (List.isChain_singleton version) ?_
        intro x hx y hy
        rw [hlast] at hx
        cases hx
        cases hy
        exact hp.succeeds
      · rw [hnil]
        exact List.isChain_singleton version

end Chain

/-! ## The history of a run -/

/-- The **history of versions** of a run: what has been stored of every order, by whom and in place
of what. -/
structure VersionHistory (d : Desk) (s : Traffic Reply) : Prop where
  /-- The latest version is the one that is stored. -/
  current : ∀ orderId, s.desk.orders.get? orderId = (versions d s.trace orderId).getLast?
  /-- Each version differs from the one before it in status and last update only, and it is a move
  of the table away. -/
  chain : ∀ orderId, (versions d s.trace orderId).IsChain Order.Succeeds
  /-- A change that is stored replaces the very version that its call has loaded, and it differs
  from it in status and last update only. -/
  replaces : ∀ before turn after changed expected, s.trace = before ++ turn :: after →
    turn.toExchange = ⟨.saveIfStatus changed expected, .ok ()⟩ →
    ∃ order, (progress before turn.call).loaded = some (changed.orderId, order) ∧
      (versions d before changed.orderId).getLast? = some order ∧ expected = order.status ∧
      changed = order.withStatus changed.status changed.updatedAt ∧
      order.status.canMoveTo changed.status = true
  /-- An order in a terminal status is never replaced. -/
  terminal : ∀ before after orderId order, s.trace = before ++ after →
    (versions d before orderId).getLast? = some order → order.status.isTerminal = true →
    s.desk.orders.get? orderId = some order
  /-- Two changes that are stored were not made from the same version. -/
  single : ∀ before first between second after changed expected changed' expected',
    s.trace = before ++ first :: between ++ second :: after →
    first.toExchange = ⟨.saveIfStatus changed expected, .ok ()⟩ →
    second.toExchange = ⟨.saveIfStatus changed' expected', .ok ()⟩ →
    (progress before first.call).loaded ≠
      (progress (before ++ first :: between) second.call).loaded
  /-- A change is in conflict only if somebody else has stored a change of the order after it was
  loaded. -/
  conflict : ∀ before turn after changed expected key awaited found,
    s.trace = before ++ turn :: after →
    turn.toExchange =
      ⟨.saveIfStatus changed expected, .error (.statusConflict key awaited found)⟩ →
    ∃ earlier load later order, before = earlier ++ load :: later ∧ load.call = turn.call ∧
      load.loaded? = some (changed.orderId, order) ∧
      ∃ rival ∈ later, rival.call ≠ turn.call ∧ ∃ version status,
        rival.toExchange = ⟨.saveIfStatus version status, .ok ()⟩ ∧
        version.orderId = changed.orderId
  /-- The order of a change is always found. -/
  found : ∀ turn ∈ s.trace, ∀ changed expected key,
    turn.toExchange ≠ ⟨.saveIfStatus changed expected, .error (.notFound key)⟩

section History

variable {d : Desk} {trace before after : List Turn} {turn : Turn}

/-- From a version on, the latest version is the same or a higher one. -/
theorem Lawful.last_cases (hd : d.orders.Keyed fun o => o.orderId)
    (h : Lawful d (before ++ after)) {orderId : OrderId} {order : Order}
    (hlast : (versions d before orderId).getLast? = some order) :
    ((after.filterMap fun turn => turn.stored?).filter (·.orderId = orderId) = [] ∧
      (versions d (before ++ after) orderId).getLast? = some order) ∨
    order.status.isTerminal = false ∧
    ∃ latest, (versions d (before ++ after) orderId).getLast? = some latest ∧
      order.status.rank < latest.status.rank ∧ Order.SameTerms order latest := by
  have hchain := h.isChain_versions hd orderId
  rw [versions_append] at hchain ⊢
  cases hmore : (after.filterMap fun turn => turn.stored?).filter (·.orderId = orderId) with
  | nil => exact .inl ⟨rfl, by simpa using hlast⟩
  | cons next rest =>
    rw [hmore] at hchain
    have hmove : Order.Succeeds order next :=
      (List.isChain_append.1 hchain).2.2 order hlast next rfl
    refine .inr ⟨Status.isTerminal_eq_false_of_canMoveTo hmove.move, (next :: rest).getLast nofun,
      by simp [List.getLast?_eq_some_getLast], ?_, ?_⟩
    · exact (List.pairwise_append.1 (Order.pairwise_rank_lt hchain)).2.2 order
        (List.mem_of_getLast? hlast) _ (List.getLast_mem _)
    · exact (List.pairwise_append.1 (Order.pairwise_sameTerms hchain)).2.2 order
        (List.mem_of_getLast? hlast) _ (List.getLast_mem _)

/-- A stored change replaces the version that its call has loaded. -/
theorem Lawful.replaces (hd : d.orders.Keyed fun o => o.orderId)
    (h : Lawful d (before ++ turn :: after)) {changed : Order} {expected : Status}
    (hx : turn.toExchange = ⟨.saveIfStatus changed expected, .ok ()⟩) :
    ∃ order, Prepared before turn.call changed expected order ∧
      (versions d before changed.orderId).getLast? = some order := by
  obtain ⟨hbefore, hmay, hfits⟩ := h.split
  have hstored : turn.stored? = some changed := by rw [hx]; rfl
  obtain ⟨expected', order, hx', hp, hlast⟩ | ⟨side, settlement, hx', -⟩ :=
    hbefore.stored_cases hd (hbefore.isChain_versions hd) hmay hfits hstored
  · cases hx.symm.trans hx'
    exact ⟨order, hp, hlast⟩
  · cases hx.symm.trans hx'

/-- A change in conflict has a rival.

**Proof sketch.** The version that the call has loaded was the latest one then, and it is not any
more. So a version has been stored in between: not by the call, which has not changed anything yet,
and not by a commit, since there was a version already. -/
theorem Lawful.conflict (hd : d.orders.Keyed fun o => o.orderId)
    (h : Lawful d (before ++ turn :: after)) {changed : Order} {expected : Status} {e : OrderError}
    (hx : turn.toExchange = ⟨.saveIfStatus changed expected, .error e⟩) :
    ∃ earlier load later order, before = earlier ++ load :: later ∧ load.call = turn.call ∧
      load.loaded? = some (changed.orderId, order) ∧
      ∃ rival ∈ later, rival.call ≠ turn.call ∧ ∃ version status,
        rival.toExchange = ⟨.saveIfStatus version status, .ok ()⟩ ∧
        version.orderId = changed.orderId := by
  obtain ⟨hbefore, hmay, hfits⟩ := h.split
  obtain ⟨⟨request, answer⟩, call, moment⟩ := turn
  cases hx
  obtain ⟨order, hp⟩ := hbefore.prepared hd hmay
  obtain ⟨stored, hlast⟩ := hp.exists_last hbefore
  have hstatus : stored.status ≠ order.status := by
    intro hstatus
    simp only [Exchange.Fits, hlast, hstatus, hp.status] at hfits
    cases hfits
  obtain ⟨earlier, load, later, rfl, hcall, hload, hthen⟩ := hbefore.load hp.loaded
  refine ⟨earlier, load, later, order, rfl, hcall, hload, ?_⟩
  -- some version has been stored since the order was loaded
  obtain ⟨version, hversion⟩ : ∃ version, version ∈
      ((load :: later).filterMap fun turn => turn.stored?).filter
        (·.orderId = changed.orderId) := by
    refine List.exists_mem_of_ne_nil _ fun hnil => ?_
    rw [versions_append, hnil, List.append_nil, hthen] at hlast
    cases hlast
    exact hstatus rfl
  obtain ⟨hmem, hid⟩ := List.mem_filter.1 hversion
  obtain ⟨rival, hrival, hstored⟩ := List.mem_filterMap.1 hmem
  have hid : version.orderId = changed.orderId := of_decide_eq_true hid
  have hlater : rival ∈ later := by
    refine (List.mem_cons.1 hrival).resolve_left ?_
    rintro rfl
    rw [Exchange.stored?_of_loaded? hload] at hstored
    cases hstored
  refine ⟨rival, hlater, fun hsame => ?_, version, ?_⟩
  · have hnone := stored?_eq_none_of_effect hp.idle
      (List.mem_append_right earlier hrival) hsame
    rw [hnone] at hstored
    cases hstored
  · obtain ⟨l, l', rfl⟩ := List.append_of_mem hlater
    rw [← List.cons_append, ← List.append_assoc] at hbefore
    obtain ⟨hfirst, hmay', hfits'⟩ := hbefore.split
    obtain ⟨status, _, hx, -, -⟩ | ⟨_, _, -, hnil⟩ :=
      hfirst.stored_cases hd (hfirst.isChain_versions hd) hmay' hfits' hstored
    · exact ⟨status, hx, hid⟩
    · rw [hid, versions_append] at hnil
      rw [(List.append_eq_nil_iff.1 hnil).1] at hthen
      cases hthen

/-- A change always finds the order: an order that has been loaded stays stored. -/
theorem Lawful.found (hd : d.orders.Keyed fun o => o.orderId)
    (h : Lawful d (before ++ turn :: after)) {changed : Order} {expected : Status} {key : String} :
    turn.toExchange ≠ ⟨.saveIfStatus changed expected, .error (.notFound key)⟩ := by
  intro hx
  obtain ⟨hbefore, hmay, hfits⟩ := h.split
  obtain ⟨⟨request, answer⟩, call, moment⟩ := turn
  cases hx
  obtain ⟨order, hp⟩ := hbefore.prepared hd hmay
  obtain ⟨stored, hlast⟩ := hp.exists_last hbefore
  simp only [Exchange.Fits, hlast] at hfits
  split at hfits
  · cases hfits
  · cases hfits

end History

/-- Whatever calls are served at the same time and in whatever order they go on, the versions of
every order form a chain, and a change is stored only in place of the version that it was made
from.

**Proof sketch.** Every run has a lawful record, and all that is said here is read off it. Of two
changes made from one version, the second would replace this version again, although the first has
left a higher one. -/
theorem Traffic.versionHistory_play (defaultLimit : Nat) (d : Desk)
    (hd : d.orders.Keyed fun o => o.orderId) (calls : List Call) (schedule : List Choice) :
    VersionHistory d ((start d (calls.map (Call.program defaultLimit))).play schedule) := by
  have hrecorded := recorded_play defaultLimit d calls schedule
  generalize (start d (calls.map (Call.program defaultLimit))).play schedule = s at hrecorded
  have hlawful := hrecorded.lawful
  have hcurrent : ∀ orderId,
      s.desk.orders.get? orderId = (versions d s.trace orderId).getLast? := by
    intro orderId
    rw [← hrecorded.current, Traffic.orders_settled]
  refine
    { current := hcurrent
      chain := hlawful.isChain_versions hd
      replaces := ?_
      terminal := ?_
      single := ?_
      conflict := ?_
      found := ?_ }
  · intro before turn after changed expected htrace hx
    obtain ⟨order, hp, hlast⟩ := (htrace ▸ hlawful).replaces hd hx
    exact ⟨order, hp.loaded, hlast, hp.status, hp.moved, hp.move⟩
  · intro before after orderId order htrace hlast hterminal
    rw [hcurrent, htrace]
    obtain ⟨-, hsame⟩ | ⟨hactive, -⟩ := (htrace ▸ hlawful).last_cases hd hlast
    · exact hsame
    · rw [hactive] at hterminal
      cases hterminal
  · intro before first between second after changed expected changed' expected' htrace hx hx' hload
    have hsplit : Lawful d ((before ++ first :: between) ++ second :: after) := htrace ▸ hlawful
    obtain ⟨order, hp, hlast⟩ := hsplit.split.1.replaces hd hx
    obtain ⟨order', hp', hlast'⟩ := hsplit.replaces hd hx'
    rw [hp.loaded, hp'.loaded, Option.some.injEq, Prod.mk.injEq] at hload
    obtain ⟨hid, rfl⟩ := hload
    rw [← hid] at hlast'
    obtain ⟨hnil, -⟩ | ⟨-, latest, hlatest, hlt, -⟩ := hsplit.split.1.last_cases hd hlast
    · have hstored : first.stored? = some changed := by rw [hx]; rfl
      simp [hstored] at hnil
    · rw [hlast'] at hlatest
      cases hlatest
      exact absurd hlt (Nat.lt_irrefl _)
  · intro before turn after changed expected key awaited found htrace hx
    exact (htrace ▸ hlawful).conflict hd hx
  · intro turn hturn changed expected key
    obtain ⟨before, after, htrace⟩ := List.append_of_mem hturn
    exact (htrace ▸ hlawful).found hd

/-- A user cancels an order while the system confirms it: the cancellation is in conflict. -/
theorem Traffic.versionHistory_of_race :
    let d := Desk.small.putOrder .small
    let calls : List Call := [.cancel "alice" "ord_1700000000_abcd1234_alice",
      .update "ord_1700000000_abcd1234_alice" .confirmed .system]
    let s := (start d (calls.map (Call.program 50))).play
      (([0, 0, 0, 1, 1, 1, 1, 0] : List Nat).map fun call => .turn call (.small 5))
    s.replies = [
        some (.error (.error (.validation
          "Order ord_1700000000_abcd1234_alice is no longer PENDING (now CONFIRMED)"))),
        some (.ok (.order (Order.small.withStatus .confirmed (.ofSeconds 1700000005)).view))] ∧
      VersionHistory d s :=
  ⟨by decide +kernel,
    versionHistory_play 50 _ (Desk.keyed_small.putOrder .small).orders _ _⟩

end OrderDesk
