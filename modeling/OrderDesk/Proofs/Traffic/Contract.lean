import OrderDesk.Proofs.Call
import OrderDesk.Proofs.Traffic.Basic

/-!
# Contracts in traffic

A contract over a record of the exchange is a matter of one call: its state follows from what this
call has asked and has been answered. So a call that keeps it on its own keeps it in every run,
whatever the other calls do in between.

## Main definitions

* `OrderDesk.record` — the record of a call, as it follows from the turns of a run.
* `OrderDesk.Traffic.Honored` — every call has kept its contract, and will.

## Main results

* `OrderDesk.record_notes` — a record that takes notes is a filter of the trace.
* `OrderDesk.Traffic.honored_play`, `OrderDesk.Traffic.honored_calls` — calls that keep their
  contracts keep them in every run.
-/

set_option autoImplicit false

namespace OrderDesk

section Record

variable {σ : Type} {after : σ → (request : Request) → request.Answer → σ} {s₀ : σ}
  {trace : List Turn} {turn : Turn}

/-- The **record** of a call: what has been asked and answered in its turns, one after another. -/
def record (after : σ → (request : Request) → request.Answer → σ) (s₀ : σ) (trace : List Turn)
    (call : Nat) : σ :=
  (trace.filter (·.call = call)).foldl (fun s turn => after s turn.request turn.answer) s₀

/-- A turn is recorded for its own call only. -/
theorem record_concat (call : Nat) :
    record after s₀ (trace ++ [turn]) call =
      if turn.call = call then after (record after s₀ trace call) turn.request turn.answer
      else record after s₀ trace call := by
  unfold record
  by_cases hcall : turn.call = call <;> simp [hcall]

/-- A record that notes something of some answers holds what can be noted of the turns of the
call. -/
theorem record_notes {ν : Type} (note? : (request : Request) → request.Answer → Option ν)
    (trace : List Turn) (call : Nat) :
    record (fun notes request answer => notes ++ (note? request answer).toList) [] trace call =
      (trace.filter (·.call = call)).filterMap fun turn => note? turn.request turn.answer := by
  unfold record
  induction trace.filter (·.call = call) using List.reverseRecOn with
  | nil => rfl
  | append_singleton turns last ih =>
    rw [List.foldl_append, ih, List.filterMap_append]
    cases hnote : note? last.request last.answer <;> simp [hnote]

end Record

/-- A turn of a longer trace is its last one, or it is a turn of the shorter one. -/
theorem Turn.split_concat {before after trace : List Turn} {turn last : Turn}
    (h : trace ++ [last] = before ++ turn :: after) :
    (before = trace ∧ turn = last) ∨ ∃ rest, trace = before ++ turn :: rest := by
  rcases List.eq_nil_or_concat after with rfl | ⟨rest, final, rfl⟩
  · obtain ⟨rfl, hlast⟩ := List.append_inj' h rfl
    cases hlast
    exact .inl ⟨rfl, rfl⟩
  · rw [List.concat_eq_append, ← List.cons_append, ← List.append_assoc] at h
    exact .inr ⟨rest, (List.append_inj' h rfl).1⟩

namespace Traffic

variable {σ α : Type} {may : Nat → σ → Request → Prop}
  {after : σ → (request : Request) → request.Answer → σ} {ends : Nat → σ → α → Prop} {s₀ : σ}
  {s s' : Traffic α}

/-- The contracts of the calls are **honored**: what is yet to come keeps them, and whatever has
been asked was allowed by the record at the time. -/
structure Honored (may : Nat → σ → Request → Prop)
    (after : σ → (request : Request) → request.Answer → σ) (ends : Nat → σ → α → Prop) (s₀ : σ)
    (s : Traffic α) : Prop where
  pending : ∀ (i : Nat) (p : Program α), s.calls[i]? = some p →
    p.Keeps (.recording (may i) after) (ends i) (record after s₀ s.trace i)
  asked : ∀ before turn rest, s.trace = before ++ turn :: rest →
    may turn.call (record after s₀ before turn.call) turn.request

/-- A turn is one step of the contract of its call, and none of any other. -/
theorem Honored.takes (h : Honored may after ends s₀ s) {turn : Turn}
    {next : turn.request.Answer → Program α} (htakes : s.Takes s' turn next) :
    Honored may after ends s₀ s' := by
  obtain ⟨hmay, hnext⟩ := h.pending turn.call _ htakes.asked
  refine ⟨fun i p hp => ?_, fun before other rest hsplit => ?_⟩
  · rw [htakes.trace, record_concat]
    by_cases hi : turn.call = i
    · subst hi
      rw [htakes.calls_self] at hp
      cases hp
      rw [if_pos rfl]
      exact hnext turn.answer _ rfl
    · rw [htakes.calls_other hi] at hp
      rw [if_neg hi]
      exact h.pending i p hp
  · rw [htakes.trace] at hsplit
    obtain ⟨rfl, rfl⟩ | ⟨rest, hearlier⟩ := Turn.split_concat hsplit
    · exact hmay
    · exact h.asked before other rest hearlier

/-- A step honors the contracts. -/
theorem Honored.step (h : Honored may after ends s₀ s) (hlocked : s.Locked) (c : Choice) :
    Honored may after ends s₀ (s.step c) := by
  obtain hrests | ⟨turn, next, htakes, -⟩ | ⟨_, _, -, -, hcalls, htrace⟩ := step_cases hlocked c
  · exact ⟨by rw [hrests.calls, hrests.trace]; exact h.pending, hrests.trace ▸ h.asked⟩
  · exact h.takes htakes
  · exact ⟨by rw [hcalls, htrace]; exact h.pending, htrace ▸ h.asked⟩

/-- **Contracts are honored.** Calls that keep their contracts, each on its own, keep them in every
run. -/
theorem honored_play (may : Nat → σ → Request → Prop)
    (after : σ → (request : Request) → request.Answer → σ) (d : Desk) (calls : List (Program α))
    (hcalls : ∀ (i : Nat) (p : Program α), calls[i]? = some p →
      p.Keeps (.recording (may i) after) (ends i) s₀) (schedule : List Choice) :
    Honored may after ends s₀ ((start d calls).play schedule) := by
  induction schedule using List.reverseRecOn with
  | nil => exact ⟨hcalls, fun before turn rest h => by simp [start, play] at h⟩
  | append_singleton schedule c ih =>
    rw [play_concat]
    exact ih.step (locked_play d calls schedule) c

/-- The same of calls of the service. -/
theorem honored_calls {ends : Nat → σ → Reply → Prop} (may : Nat → σ → Request → Prop)
    (after : σ → (request : Request) → request.Answer → σ) (defaultLimit : Nat) (d : Desk)
    (calls : List Call)
    (hcalls : ∀ (i : Nat) (call : Call), calls[i]? = some call →
      (call.program defaultLimit).Keeps (.recording (may i) after) (ends i) s₀)
    (schedule : List Choice) :
    Honored may after ends s₀
      ((start d (calls.map (Call.program defaultLimit))).play schedule) := by
  refine honored_play may after d _ (fun i p hp => ?_) schedule
  rw [List.getElem?_map, Option.map_eq_some_iff] at hp
  obtain ⟨call, hcall, rfl⟩ := hp
  exact hcalls i call hcall

/-- A call that has ended has ended as its contract says. -/
theorem Honored.ended (h : Honored may after ends s₀ s) {i : Nat} {reply : α}
    (hreply : s.replies[i]? = some (some reply)) : ends i (record after s₀ s.trace i) reply := by
  rw [replies, List.getElem?_map, Option.map_eq_some_iff] at hreply
  obtain ⟨p, hp, hdone⟩ := hreply
  match p with
  | .done result =>
    cases hdone
    exact h.pending i _ hp
  | .ask .. => cases hdone

end Traffic

end OrderDesk
