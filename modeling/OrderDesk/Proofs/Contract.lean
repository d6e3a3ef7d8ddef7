import OrderDesk.Service.Program

/-!
# Contracts between the service and its surroundings

A program asks and its surroundings answer, each in its turn. A **contract** says, for every state
of the exchange, what may be asked and what may be answered. That a program keeps its side of a
contract is a statement about the tree of its requests alone: it holds whatever the surroundings
answer within theirs. The rules below take a service apart along its steps.

## Main definitions

* `OrderDesk.Contract` — what may be asked and answered.
* `OrderDesk.Contract.recording` — a contract whose states are records of the exchange.
* `OrderDesk.Program.Keeps`, `OrderDesk.Service.Keeps` — a program keeps a contract and ends well.
* `OrderDesk.Service.AsksOnly` — a service asks requests of one kind, whatever is answered.

## Main results

* `OrderDesk.Program.keeps_andThen`, `OrderDesk.Service.keeps_bind` — one program after another.
* `OrderDesk.Service.AsksOnly.keeps`, `OrderDesk.Program.Keeps.recording` — requests that leave a
  state, or a property of it, as it is may be skipped.
* `OrderDesk.Program.Keeps.run` — what a contract says of a program that is run.
-/

set_option autoImplicit false

namespace OrderDesk

/-- A **contract** over states `σ`. -/
structure Contract (σ : Type) where
  /-- What may be asked in a state. -/
  may : σ → Request → Prop
  /-- What may be answered in a state, with the state that follows. -/
  reply : σ → (request : Request) → request.Answer → σ → Prop

/-- The contract over a **record** of what has been asked and answered: every answer may be given,
and it leads to one state. -/
def Contract.recording {σ : Type} (may : σ → Request → Prop)
    (after : σ → (request : Request) → request.Answer → σ) : Contract σ where
  may := may
  reply s request answer s' := s' = after s request answer

/-- The program asks only what it may, as long as it is answered only what may be answered, and it
ends in a state and with a result that satisfy `ends`. -/
def Program.Keeps {σ α : Type} (k : Contract σ) (ends : σ → α → Prop) : Program α → σ → Prop
  | done a, s => ends s a
  | ask request next, s =>
    k.may s request ∧
      ∀ answer s', k.reply s request answer s' → (next answer).Keeps k ends s'

/-- The same of a service, whose result may be a failure. -/
def Service.Keeps {σ α : Type} (k : Contract σ)
    (ends : σ → Except (Failure ServiceError) α → Prop) (service : Service α) (s : σ) : Prop :=
  Program.Keeps k ends (ExceptT.run service) s

/-! ## Programs -/

section Programs

variable {σ α β : Type} {k : Contract σ}

/-- Programs in a row keep a contract if the second one does from wherever the first one ends. -/
theorem Program.keeps_andThen {ends : σ → β → Prop} (p : Program α) (f : α → Program β) (s : σ) :
    (p.andThen f).Keeps k ends s ↔ p.Keeps k (fun s a => (f a).Keeps k ends s) s := by
  induction p generalizing s with
  | done a => rfl
  | ask request next ih => simp only [andThen, Keeps, ih]

/-- A weaker end is reached as well. -/
theorem Program.Keeps.mono {ends ends' : σ → α → Prop} {p : Program α} {s : σ}
    (h : p.Keeps k ends s) (himp : ∀ s a, ends s a → ends' s a) : p.Keeps k ends' s := by
  induction p generalizing s with
  | done a => exact himp s a h
  | ask request next ih => exact ⟨h.1, fun answer s' hr => ih answer (h.2 answer s' hr)⟩

/-- A contract that allows more to be asked and less to be answered is kept as well. -/
theorem Program.Keeps.weaken {k' : Contract σ} {ends : σ → α → Prop} {p : Program α} {s : σ}
    (h : p.Keeps k ends s) (hmay : ∀ s request, k.may s request → k'.may s request)
    (hreply : ∀ s request answer s', k'.reply s request answer s' → k.reply s request answer s') :
    p.Keeps k' ends s := by
  induction p generalizing s with
  | done a => exact h
  | ask request next ih =>
    exact ⟨hmay s request h.1, fun answer s' hr => ih answer (h.2 answer s' (hreply _ _ _ _ hr))⟩

/-- A program that keeps a contract with its surroundings ends as said when it is run: here `R`
ties the state of the surroundings to a state of the contract, and every answer stays within both.

**Proof sketch.** Induction on the program: one request is answered and `R` holds again. -/
theorem Program.Keeps.run {τ : Type} {ends : σ → α → Prop} {h : Handler τ} {R : σ → τ → Prop}
    (hR : ∀ s t request, R s t → k.may s request →
      ∃ s', k.reply s request (h request t).1 s' ∧ R s' (h request t).2)
    {p : Program α} {s : σ} {t : τ} (hp : p.Keeps k ends s) (hst : R s t) :
    ∃ s', ends s' (p.run h t).1 ∧ R s' (p.run h t).2 := by
  induction p generalizing s t with
  | done a => exact ⟨s, hp, hst⟩
  | ask request next ih =>
    obtain ⟨s', hreply, hs'⟩ := hR s t request hst hp.1
    exact ih _ (hp.2 _ s' hreply) hs'

end Programs

/-! ## Services -/

namespace Service

section Steps

variable {σ α β : Type} {k : Contract σ} {s : σ}

/-- The end of a first step, seen from what follows it: a result goes on, a failure is the end. -/
def proceed (k : Contract σ) (ends : σ → Except (Failure ServiceError) β → Prop)
    (f : α → Service β) : σ → Except (Failure ServiceError) α → Prop
  | s, .ok a => Keeps k ends (f a) s
  | s, .error e => ends s (.error e)

/-- One step after another. -/
theorem keeps_bind {ends : σ → Except (Failure ServiceError) β → Prop} (x : Service α)
    (f : α → Service β) : Keeps k ends (x >>= f) s ↔ Keeps k (proceed k ends f) x s := by
  change (Program.andThen (ExceptT.run x) (ExceptT.bindCont f)).Keeps k ends s ↔ _
  rw [Program.keeps_andThen]
  have he : (fun s r => (ExceptT.bindCont f r : Program _).Keeps k ends s) =
      proceed k ends f := by
    funext s r
    cases r <;> rfl
  rw [he]
  rfl

/-- A request on its own. -/
theorem keeps_ask {request : Request}
    {ends : σ → Except (Failure ServiceError) request.Answer → Prop} :
    Keeps k ends (ask request) s ↔
      k.may s request ∧ ∀ answer s', k.reply s request answer s' → ends s' (.ok answer) :=
  Iff.rfl

/-- A request, and what follows its answer. -/
theorem keeps_ask_bind {request : Request} {f : request.Answer → Service α}
    {ends : σ → Except (Failure ServiceError) α → Prop} :
    Keeps k ends (ask request >>= f) s ↔
      k.may s request ∧ ∀ answer s', k.reply s request answer s' → Keeps k ends (f answer) s' :=
  Iff.rfl

/-- A weaker end is reached as well. -/
theorem Keeps.mono {ends ends' : σ → Except (Failure ServiceError) α → Prop} {x : Service α}
    (h : Keeps k ends x s) (himp : ∀ s r, ends s r → ends' s r) : Keeps k ends' x s :=
  Program.Keeps.mono h himp

end Steps

/-! ### Requests of one kind -/

/-- The contract under which requests of one kind may be asked and anything may be answered. -/
def only (P : Request → Prop) : Contract Unit :=
  { may := fun _ request => P request, reply := fun _ _ _ _ => True }

/-- The service asks requests of one kind, whatever is answered. -/
def AsksOnly {α : Type} (P : Request → Prop) (x : Service α) : Prop :=
  Keeps (only P) (fun _ _ => True) x ()

namespace AsksOnly

variable {α β : Type} {P Q : Request → Prop}

/-- A value at once. -/
theorem pure (a : α) : AsksOnly P (Pure.pure a) :=
  trivial

/-- A failure at once. -/
theorem refuse (e : ServiceError) : AsksOnly P (Service.refuse e : Service α) :=
  trivial

/-- A request of the kind. -/
theorem ask {request : Request} (h : P request) : AsksOnly P (Service.ask request) :=
  ⟨h, fun _ _ _ => trivial⟩

/-- One step after another. -/
theorem bind {x : Service α} {f : α → Service β} (hx : AsksOnly P x)
    (hf : ∀ a, AsksOnly P (f a)) : AsksOnly P (x >>= f) := by
  refine (keeps_bind x f).2 (hx.mono ?_)
  rintro ⟨⟩ r -
  cases r with
  | ok a => exact hf a
  | error e => trivial

/-- A step that is refused under a condition. -/
theorem guarded {c : Prop} [Decidable c] (e : ServiceError) {rest : Unit → Service α}
    (h : AsksOnly P (rest ())) :
    AsksOnly P (if c then (do let r ← Service.refuse e; rest r) else rest ()) := by
  split
  · exact trivial
  · exact h

/-- A value that is there, or a failure. -/
theorem ofExcept {ε : Type} (tell : ε → ServiceError) (r : Except ε α) :
    AsksOnly P (Service.ofExcept tell r) := by
  cases r <;> trivial

/-- A cause is told; an outage is reported before. -/
theorem fail (hlog : ∀ event, P (.log event)) (cause : Cause) :
    AsksOnly P (Service.fail cause : Service α) := by
  unfold Service.fail
  split
  · exact (ask (hlog _)).bind fun _ => refuse _
  · exact refuse _

/-- An answer, or its cause. -/
theorem ofAnswer {ε : Type} (hlog : ∀ event, P (.log event)) (cause : ε → Cause)
    (r : Except ε α) : AsksOnly P (Service.ofAnswer cause r) := by
  cases r with
  | ok a => exact pure a
  | error e => exact fail hlog _

/-- A kind that holds more requests. -/
theorem mono {x : Service α} (h : AsksOnly P x) (hPQ : ∀ request, P request → Q request) :
    AsksOnly Q x := by
  unfold AsksOnly Service.Keeps at h ⊢
  generalize ExceptT.run x = p at h ⊢
  induction p with
  | done a => trivial
  | ask request next ih =>
    exact ⟨hPQ _ h.1, fun answer s' hr => ih answer (h.2 answer s' hr)⟩

/-- Requests that may be asked in a state and leave it as it is need not be followed one by one:
the service ends in the same state, with some result. -/
theorem keeps {σ : Type} {k : Contract σ} {s : σ}
    {ends : σ → Except (Failure ServiceError) α → Prop} {x : Service α} (hx : AsksOnly P x)
    (hP : ∀ request, P request →
      k.may s request ∧ ∀ answer s', k.reply s request answer s' → s' = s)
    (hends : ∀ r, ends s r) : Keeps k ends x s := by
  unfold AsksOnly Service.Keeps at *
  generalize ExceptT.run x = p at hx ⊢
  induction p with
  | done a => exact hends a
  | ask request next ih =>
    obtain ⟨hmay, hstay⟩ := hP request hx.1
    refine ⟨hmay, fun answer s' hr => ?_⟩
    obtain rfl := hstay answer s' hr
    exact ih answer (hx.2 answer () trivial)

end AsksOnly

end Service

/-- Requests of one kind that a record allows, as long as it has a property that every exchange
keeps, need not be followed one by one either: the record has the property at the end. -/
theorem Program.Keeps.recording {σ α : Type} {may : σ → Request → Prop}
    {after : σ → (request : Request) → request.Answer → σ} {P : Request → Prop} {ends : α → Prop}
    {p : Program α} (hp : p.Keeps (Service.only P) (fun _ a => ends a) ()) {I : σ → Prop}
    (hmay : ∀ s request, I s → P request → may s request)
    (hafter : ∀ s request answer, I s → I (after s request answer)) {s : σ} (hs : I s) :
    p.Keeps (.recording may after) (fun s a => I s ∧ ends a) s := by
  induction p generalizing s with
  | done a => exact ⟨hs, hp⟩
  | ask request next ih =>
    refine ⟨hmay s request hs hp.1, ?_⟩
    rintro answer _ rfl
    exact ih answer (hp.2 answer () trivial) (hafter s request answer hs)

end OrderDesk
