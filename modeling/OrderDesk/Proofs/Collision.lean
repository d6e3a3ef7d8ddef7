import OrderDesk.Proofs.Components

/-!
# Order IDs that are the same

The name of a user stands at the end of an order ID as it is, so that it may look like a time or a
token. It never makes two order IDs the same that have been drawn from something different: the
third segment of an order ID cannot be touched by a name, and it has six digits behind a date, eight
behind a number of seconds, and twelve in a simple order ID. So the kind of an order ID is known,
and with it the place at which the name begins.

## Main definitions

* `OrderDesk.OrderId.Kind` — the three ways to draw an order ID.
* `OrderDesk.OrderId.Draft` — what an order ID of any kind is drawn from.

## Main results

* `OrderDesk.OrderId.standard_eq_iff`, `OrderDesk.OrderId.timestamped_eq_iff`,
  `OrderDesk.OrderId.simple_eq_iff` — when two order IDs of one kind are the same.
* `OrderDesk.OrderId.username_of_standard_eq` — those of different users never are.
* `OrderDesk.OrderId.Draft.third_segment` — the width of the third segment tells the kind.
* `OrderDesk.OrderId.Draft.id_eq_iff` — order IDs of all kinds.
-/

set_option autoImplicit false

namespace OrderDesk

namespace OrderId

open Text

variable {s t : Instant} {u v : Uuid} {username username' : Option String}

/-! ## Order IDs of one kind -/

/-- No name and the empty name leave the same at the end of an order ID; all other names are told
apart. -/
theorem userSuffix_inj :
    userSuffix username = userSuffix username' ↔ username.getD "" = username'.getD "" := by
  rw [userSuffix_eq, userSuffix_eq]
  split_ifs with hnone hnone' hnone'
  · simp [hnone, hnone']
  · simp [hnone, Ne.symm hnone']
  · simp [hnone, hnone']
  · simp [String.toList_inj]

/-- The token has a fixed width, and all behind it is the name. -/
theorem token_append_userSuffix_inj :
    token u ++ userSuffix username = token v ++ userSuffix username' ↔
      token u = token v ∧ username.getD "" = username'.getD "" := by
  rw [List.append_eq_append_iff_of_size_eq_left (by rw [length_token, length_token]),
    userSuffix_inj]

/-- **Order IDs that are drawn by the clock are the same** only if everything in them is the same.

**Proof sketch.** Neither the date nor the time of day has an underscore, so that the first two
underscores behind `ord` are in the same places. Behind them the tokens have the same length. A name
may have underscores, but all of it comes after the token. -/
theorem standard_eq_iff :
    standard s u username = standard t v username' ↔
      s.clockSecond = t.clockSecond ∧ token u = token v ∧
        username.getD "" = username'.getD "" := by
  rw [← dateAndTime_inj, ← token_append_userSuffix_inj]
  simp only [standard, dateAndTime_eq, OrderId.mk.injEq, String.ofList_inj, List.append_assoc,
    List.cons_append, List.nil_append, List.cons.injEq, true_and,
    append_cons_eq_iff (notMem_dateDigits s) (notMem_dateDigits t),
    append_cons_eq_iff (notMem_timeDigits s) (notMem_timeDigits t), and_assoc]

/-- **Order IDs of different users never collide**, whenever they are drawn and whatever their
tokens are. -/
theorem username_of_standard_eq {name name' : String}
    (h : standard s u (some name) = standard t v (some name')) : name = name' :=
  (standard_eq_iff.1 h).2.2

/-- Order IDs with the seconds since 1970 are the same only if everything in them is the same. -/
theorem timestamped_eq_iff :
    timestamped s u username = timestamped t v username' ↔
      s.seconds = t.seconds ∧ token u = token v ∧ username.getD "" = username'.getD "" := by
  have hsign := notMem_signedDigits (show '_'.isDigit = false by decide) (by decide)
  rw [← signedDigits_inj, ← token_append_userSuffix_inj]
  simp only [timestamped, OrderId.mk.injEq, String.ofList_inj, List.append_assoc,
    List.cons_append, List.nil_append, List.cons.injEq, true_and,
    append_cons_eq_iff (hsign s.seconds) (hsign t.seconds)]

/-- Simple order IDs are the same only if both of their tokens are. -/
theorem simple_eq_iff :
    simple u = simple v ↔ firstToken u = firstToken v ∧ secondToken u = secondToken v := by
  rw [← append_cons_eq_iff (underscore_notMem_firstToken u) (underscore_notMem_firstToken v)]
  simp only [simple, OrderId.mk.injEq, String.ofList_inj, List.cons_append, List.nil_append,
    List.cons.injEq, true_and, firstToken, secondToken]

/-! ## Order IDs of all kinds -/

/-- The three ways to draw an order ID. -/
inductive Kind where
  | standard
  | timestamped
  | simple
deriving DecidableEq

/-- The number of characters of the third segment. -/
def Kind.width : Kind → Nat
  | standard => 6
  | timestamped => 8
  | simple => 12

/-- The third segment of every kind has a width of its own. -/
theorem Kind.width_inj : ∀ {kind kind' : Kind}, kind.width = kind'.width → kind = kind' := by
  rintro ⟨⟩ ⟨⟩ <;> decide

/-- What an order ID is drawn from. -/
inductive Draft where
  | standard (t : Instant) (u : Uuid) (username : Option String)
  | timestamped (t : Instant) (u : Uuid) (username : Option String)
  | simple (u : Uuid)

namespace Draft

/-- The order ID. -/
def id : Draft → OrderId
  | standard t u username => OrderId.standard t u username
  | timestamped t u username => OrderId.timestamped t u username
  | simple u => OrderId.simple u

/-- The way in which it is drawn. -/
def kind : Draft → Kind
  | standard .. => .standard
  | timestamped .. => .timestamped
  | simple _ => .simple

/-- The tokens: one, or two of a simple order ID. -/
def tokens : Draft → List (List Char)
  | standard _ u _ | timestamped _ u _ => [token u]
  | simple u => [firstToken u, secondToken u]

/-- The time at which it is drawn, if it counts. -/
def time? : Draft → Option Instant
  | standard t _ _ | timestamped t _ _ => some t
  | simple _ => none

/-- The second at which it is drawn, if it counts: the second on the clock, or the seconds since
1970. -/
def second? : Draft → Option Int
  | standard t _ _ => some t.clockSecond
  | timestamped t _ _ => some t.seconds
  | simple _ => none

/-- The name of the user; no name is the empty name. -/
def name : Draft → String
  | standard _ _ username | timestamped _ _ username => username.getD ""
  | simple _ => ""

/-- The **third segment** of an order ID is out of reach of the name, and its width tells the
kind. -/
theorem third_segment (d : Draft) : ∃ second third rest,
    segments '_' d.id.text.toList = ['o', 'r', 'd'] :: second :: third :: rest ∧
      third.length = d.kind.width := by
  cases d with
  | standard t u username =>
    exact ⟨_, _, _, segments_standard t u username, length_timeDigits t⟩
  | timestamped t u username =>
    exact ⟨_, _, _, segments_timestamped t u username, length_token u⟩
  | simple u => exact ⟨_, _, _, segments_simple u, length_secondToken u⟩

variable {a b : Draft}

/-- Order IDs of different kinds are different. -/
theorem kind_eq_of_id_eq (h : a.id = b.id) : a.kind = b.kind := by
  obtain ⟨second, third, rest, ha, hwidth⟩ := third_segment a
  obtain ⟨second', third', rest', hb, hwidth'⟩ := third_segment b
  rw [h, hb] at ha
  obtain ⟨-, -, rfl, -⟩ : _ ∧ second' = second ∧ third' = third ∧ rest' = rest := by
    simpa only [List.cons.injEq] using ha
  exact Kind.width_inj (hwidth.symm.trans hwidth')

/-- Order IDs of one kind. -/
theorem id_eq_iff_of_kind_eq (h : a.kind = b.kind) :
    a.id = b.id ↔ a.tokens = b.tokens ∧ a.second? = b.second? ∧ a.name = b.name := by
  cases a with
  | standard s u username =>
    cases b with
    | standard t v username' =>
      simp only [id, standard_eq_iff, tokens, second?, name, List.cons.injEq, and_true,
        Option.some.injEq, and_left_comm]
    | timestamped | simple => cases h
  | timestamped s u username =>
    cases b with
    | timestamped t v username' =>
      simp only [id, timestamped_eq_iff, tokens, second?, name, List.cons.injEq, and_true,
        Option.some.injEq, and_left_comm]
    | standard | simple => cases h
  | simple u =>
    cases b with
    | simple v =>
      simp only [id, simple_eq_iff, tokens, second?, name, List.cons.injEq, and_true]
    | standard | timestamped => cases h

/-- On a clock the second that counts is the second since 1970 in either kind. -/
theorem seconds_eq_of_second?_eq (hkind : a.kind = b.kind) (hsecond : a.second? = b.second?)
    (hs : s ∈ a.time?) (ht : t ∈ b.time?) (hsclock : s.IsClockReading)
    (htclock : t.IsClockReading) : s.seconds = t.seconds := by
  cases a with
  | standard _ _ _ =>
    cases b with
    | standard _ _ _ =>
      obtain rfl := Option.some.inj hs
      obtain rfl := Option.some.inj ht
      exact hsclock.seconds_eq htclock (Option.some.inj hsecond)
    | timestamped | simple => cases hkind
  | timestamped _ _ _ =>
    cases b with
    | timestamped _ _ _ =>
      obtain rfl := Option.some.inj hs
      obtain rfl := Option.some.inj ht
      exact Option.some.inj hsecond
    | standard | simple => cases hkind
  | simple _ => cases hs

/-- **Order IDs never collide.** Two order IDs, of whatever kinds, are the same only if the kinds,
the tokens, the seconds and the names are all the same, where no name counts as the empty name. The
names may be any texts, and the years may have signs and more than four digits. The seconds are
those on the clock. So they are seconds since 1970 as well, unless one of the instants is a leap
second in the middle of a minute, which no clock shows.

**Proof sketch.** The third segment tells the kind. Within one kind the segments in front of the
name are in fixed places or have fixed widths, and all that follows is the name. -/
theorem id_eq_iff (a b : Draft) :
    (a.id = b.id ↔
      a.kind = b.kind ∧ a.tokens = b.tokens ∧ a.second? = b.second? ∧ a.name = b.name) ∧
    (a.id = b.id → ∀ s ∈ a.time?, ∀ t ∈ b.time?, s.IsClockReading → t.IsClockReading →
      s.seconds = t.seconds) := by
  have hiff : a.id = b.id ↔
      a.kind = b.kind ∧ a.tokens = b.tokens ∧ a.second? = b.second? ∧ a.name = b.name := by
    constructor
    · intro h
      have hkind := kind_eq_of_id_eq h
      exact ⟨hkind, (id_eq_iff_of_kind_eq hkind).1 h⟩
    · rintro ⟨hkind, hrest⟩
      exact (id_eq_iff_of_kind_eq hkind).2 hrest
  refine ⟨hiff, fun h s hs t ht hsclock htclock => ?_⟩
  obtain ⟨hkind, -, hsecond, -⟩ := hiff.1 h
  exact seconds_eq_of_second?_eq hkind hsecond hs ht hsclock htclock

end Draft

end OrderId

end OrderDesk
