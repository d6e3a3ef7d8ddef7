import Mathlib.Data.List.DropRight
import OrderDesk.Proofs.Calendar

/-!
# What order IDs say

An order ID that has been drawn is cut into its segments again: neither the date nor a number of
seconds nor a token has an underscore, so that the segments in front are the ones that have been
written. A name may have underscores. Its last piece is the last segment then, and is taken for the
user and for the unique part alike.

The kind of an order ID is not written in it. It is told from the second segment alone, which is
read as a number of seconds if it can be. So a simple order ID passes for a timestamped one if its
first token has no letter.

## Main definitions

* `OrderDesk.OrderId.lastPiece` — the part of a name behind its last underscore.
* `OrderDesk.OrderId.ending` — the last segment of an order ID with a token and a name.

## Main results

* `OrderDesk.Text.getLast?_segments` — the last segment of a text.
* `OrderDesk.OrderId.segments_standard`, `OrderDesk.OrderId.segments_timestamped`,
  `OrderDesk.OrderId.segments_simple` — the segments of an order ID.
* `OrderDesk.OrderId.parse_drawn` — an order ID that has been drawn is read back.
* `OrderDesk.OrderId.describe_drawn` — how it is classified.
-/

set_option autoImplicit false

namespace OrderDesk

namespace Text

/-- The last segment of a text is what stands **behind its last separator**, or all of it if there
is none. -/
theorem getLast?_segments (separator : Char) (cs : List Char) :
    (segments separator cs).getLast? = some (cs.rtakeWhile (· ≠ separator)) := by
  have hpiece : separator ∉ cs.rtakeWhile (· ≠ separator) := by
    intro h
    simpa using List.mem_rtakeWhile_imp h
  have hsplit := List.rdropWhile_append_rtakeWhile (p := (· ≠ separator)) (l := cs)
  generalize cs.rtakeWhile (· ≠ separator) = piece at hpiece hsplit
  by_cases hnil : cs.rdropWhile (· ≠ separator) = []
  · rw [← hsplit, hnil, List.nil_append, segments_eq_singleton hpiece, List.getLast?_singleton]
  · have hlast : (cs.rdropWhile (· ≠ separator)).getLast hnil = separator := by
      simpa using List.rdropWhile_last_not (· ≠ separator) cs hnil
    rw [← hsplit, ← List.dropLast_append_getLast hnil, hlast, List.append_assoc,
      List.singleton_append, segments_append_cons, segments_eq_singleton hpiece,
      List.getLast?_concat]

end Text

namespace OrderId

open Text

/-! ## Segments -/

/-- The first token of a simple order ID. -/
def firstToken (u : Uuid) : List Char :=
  u.hexDigits.take 12

/-- The second token of a simple order ID. -/
def secondToken (u : Uuid) : List Char :=
  (u.hexDigits.drop 12).take 12

/-- A token behind a time has eight digits. -/
theorem length_token (u : Uuid) : (token u).length = 8 := by
  simp [token, Uuid.hexDigits]

/-- The first token of a simple order ID has twelve digits. -/
theorem length_firstToken (u : Uuid) : (firstToken u).length = 12 := by
  simp [firstToken, Uuid.hexDigits]

/-- The second token of a simple order ID has twelve digits as well. -/
theorem length_secondToken (u : Uuid) : (secondToken u).length = 12 := by
  simp [secondToken, Uuid.hexDigits]

/-- The segments of a name at the end of an order ID. -/
def userSegments (username : Option String) : List (List Char) :=
  if username.getD "" = "" then [] else segments '_' (username.getD "").toList

/-- No name is the same as the empty name. -/
theorem userSuffix_eq (username : Option String) :
    userSuffix username =
      if username.getD "" = "" then [] else '_' :: (username.getD "").toList := by
  cases username with
  | none => rfl
  | some name => simp [userSuffix]

/-- A character that is no hexadecimal digit is in no token. -/
theorem notMem_hexDigits {c : Char} (hc : ∀ d < 16, c ≠ hexDigit d) (u : Uuid) :
    c ∉ u.hexDigits := by
  intro h
  obtain ⟨d, hd, rfl⟩ := exists_of_mem_hexDigits h
  exact hc d hd rfl

/-- There is no underscore among the digits of a random identifier. -/
theorem underscore_notMem_hexDigits (u : Uuid) : '_' ∉ u.hexDigits :=
  notMem_hexDigits (by decide) u

/-- There is no underscore in the first token of a simple order ID. -/
theorem underscore_notMem_firstToken (u : Uuid) : '_' ∉ firstToken u :=
  fun h => underscore_notMem_hexDigits u (List.mem_of_mem_take h)

/-- The token is a segment, and what follows it are those of the name. -/
theorem segments_token (u : Uuid) (username : Option String) :
    segments '_' (token u ++ userSuffix username) = token u :: userSegments username := by
  have htoken : segments '_' (token u) = [token u] :=
    segments_eq_singleton fun h => underscore_notMem_hexDigits u (List.mem_of_mem_take h)
  rw [userSuffix_eq, userSegments]
  split
  · rw [List.append_nil, htoken]
  · rw [segments_append_cons, htoken, List.singleton_append]

/-- The segments of an order ID with the date and the time of day. -/
theorem segments_standard (t : Instant) (u : Uuid) (username : Option String) :
    segments '_' (standard t u username).text.toList =
      ['o', 'r', 'd'] :: dateDigits t :: timeDigits t :: token u :: userSegments username := by
  have htext : (standard t u username).text.toList = ['o', 'r', 'd'] ++ '_' :: (dateDigits t ++
      '_' :: (timeDigits t ++ '_' :: (token u ++ userSuffix username))) := by
    simp [standard, dateAndTime_eq]
  rw [htext, segments_append_cons, segments_append_cons, segments_append_cons,
    segments_eq_singleton (notMem_dateDigits t), segments_eq_singleton (notMem_timeDigits t),
    segments_token]
  rfl

/-- The segments of an order ID with the seconds since 1970. -/
theorem segments_timestamped (t : Instant) (u : Uuid) (username : Option String) :
    segments '_' (timestamped t u username).text.toList =
      ['o', 'r', 'd'] :: signedDigits t.seconds :: token u :: userSegments username := by
  have htext : (timestamped t u username).text.toList = ['o', 'r', 'd'] ++
      '_' :: (signedDigits t.seconds ++ '_' :: (token u ++ userSuffix username)) := by
    simp [timestamped]
  rw [htext, segments_append_cons, segments_append_cons,
    segments_eq_singleton (notMem_signedDigits (by decide) (by decide) _), segments_token]
  rfl

/-- The segments of a simple order ID. -/
theorem segments_simple (u : Uuid) :
    segments '_' (simple u).text.toList = [['o', 'r', 'd'], firstToken u, secondToken u] := by
  have htext : (simple u).text.toList =
      ['o', 'r', 'd'] ++ '_' :: (firstToken u ++ '_' :: secondToken u) := by
    simp [simple, firstToken, secondToken]
  have hsecond : '_' ∉ secondToken u :=
    fun h => underscore_notMem_hexDigits u (List.mem_of_mem_drop (List.mem_of_mem_take h))
  rw [htext, segments_append_cons, segments_append_cons,
    segments_eq_singleton (underscore_notMem_firstToken u), segments_eq_singleton hsecond]
  rfl

/-! ## Reading -/

/-- The part of a name **behind its last underscore**, or all of it if there is none. -/
def lastPiece (name : String) : String :=
  String.ofList (name.toList.rtakeWhile (· ≠ '_'))

/-- A name without an underscore is in one piece. -/
theorem lastPiece_eq_self {name : String} (h : '_' ∉ name.toList) : lastPiece name = name := by
  have hall : name.toList.rtakeWhile (· ≠ '_') = name.toList := by
    refine List.rtakeWhile_eq_self_iff.2 fun c hc => ?_
    simpa using fun heq : c = '_' => h (heq ▸ hc)
  rw [lastPiece, hall, String.ofList_toList]

/-- The last segment of an order ID that ends with a token and a name. -/
def ending (u : Uuid) (username : Option String) : String :=
  if username.getD "" = "" then String.ofList (token u) else lastPiece (username.getD "")

/-- The last segment is the token or the last piece of the name. -/
theorem getLast?_token_cons (u : Uuid) (username : Option String) :
    (token u :: userSegments username).getLast? = some (ending u username).toList := by
  unfold userSegments ending
  split
  · rw [List.getLast?_singleton, String.toList_ofList]
  · rw [List.getLast?_cons, getLast?_segments, Option.getD_some, lastPiece, String.toList_ofList]

/-- Reading an order ID looks at its second segment, at its last one and at their number. -/
theorem parse_of_segments {s : String} {second third last : List Char} {rest : List (List Char)}
    (h : segments '_' s.toList = ['o', 'r', 'd'] :: second :: third :: rest)
    (hlast : (third :: rest).getLast? = some last) :
    parse s = .ok {
      start := "ord"
      uniqueId := String.ofList last
      username := if rest.isEmpty then none else some (String.ofList last)
      unixTimestamp := readInt64? second } := by
  have hget : (third :: rest).getLast (by simp) = last :=
    List.getLast_eq_iff_getLast?_eq_some (by simp) |>.2 hlast
  simp only [parse, h, hget, if_true]

/-- What is read of an order ID with the date and the time of day. There are always four segments,
so that the last one is taken for the user, and the date is read as a number of seconds. -/
theorem parse_standard (t : Instant) (u : Uuid) (username : Option String) :
    parse (standard t u username).text = .ok {
      start := "ord"
      uniqueId := ending u username
      username := some (ending u username)
      unixTimestamp := readInt64? (dateDigits t) } := by
  rw [parse_of_segments (segments_standard t u username)
    ((List.getLast?_cons_cons).trans (getLast?_token_cons u username)), String.ofList_toList]
  rfl

/-- What is read of an order ID with the seconds since 1970. -/
theorem parse_timestamped (t : Instant) (u : Uuid) (username : Option String) :
    parse (timestamped t u username).text = .ok {
      start := "ord"
      uniqueId := ending u username
      username := if username.getD "" = "" then none else some (ending u username)
      unixTimestamp := readInt64? (signedDigits t.seconds) } := by
  have hempty : (userSegments username).isEmpty = true ↔ username.getD "" = "" := by
    unfold userSegments
    split <;> simp [*, segments_ne_nil]
  rw [parse_of_segments (segments_timestamped t u username) (getLast?_token_cons u username),
    String.ofList_toList]
  simp only [hempty]

/-- The first token has no sign, and as a number it is far below the bounds. -/
theorem readInt64?_firstToken (u : Uuid) :
    readInt64? (firstToken u) = (ofDigits? (firstToken u)).map Int.ofNat := by
  have hsign {c : Char} (hc : ∀ d < 16, c ≠ hexDigit d) : c ∉ (firstToken u).head? := fun h =>
    notMem_hexDigits hc u (List.mem_of_mem_take (List.mem_of_mem_head? h))
  rw [readInt64?_of_unsigned (hsign (by decide)) (hsign (by decide))]
  cases hvalue : ofDigits? (firstToken u) with
  | none => rfl
  | some n =>
    have hn := (eq_zeroPadded_of_ofDigits? hvalue).1
    rw [length_firstToken] at hn
    rw [Option.map_some, Option.filter_some_pos]
    simp only [Int.ofNat_eq_natCast, decide_eq_true_eq]
    omega

/-- What is read of a simple order ID: its first token passes for a number of seconds if it can be
read as one. -/
theorem parse_simple (u : Uuid) :
    parse (simple u).text = .ok {
      start := "ord"
      uniqueId := String.ofList (secondToken u)
      username := none
      unixTimestamp := (ofDigits? (firstToken u)).map Int.ofNat } := by
  rw [parse_of_segments (segments_simple u) rfl, readInt64?_firstToken]
  rfl

/-- **Order IDs are read back.** Every order ID that is drawn is accepted, whatever the time, the
random part and the name are. The seconds of a timestamped one are those of the time, also before
1970. With a name, its last piece is the user and the unique part, and this is the whole name if it
has no underscore. Without one, or with the empty name, the token is the unique part, and it passes
for the user behind a date and a time of day. A simple one has no user, and its second token is the
unique part.

**Proof sketch.** The segments are those that have been written up to the token. Behind it the name
is cut at its underscores, and only the last piece is looked at. -/
theorem parse_drawn {t : Instant} (ht : -(2 ^ 63) ≤ t.seconds ∧ t.seconds < 2 ^ 63) (u : Uuid)
    (username : Option String) :
    ∃ dated stamped plain : Components,
      parse (standard t u username).text = .ok dated ∧
      parse (timestamped t u username).text = .ok stamped ∧
      parse (simple u).text = .ok plain ∧
      dated.start = "ord" ∧ stamped.start = "ord" ∧ plain.start = "ord" ∧
      stamped.unixTimestamp = some t.seconds ∧
      (∀ name, username = some name → name ≠ "" →
        dated.username = some (lastPiece name) ∧ dated.uniqueId = lastPiece name ∧
        stamped.username = some (lastPiece name) ∧ stamped.uniqueId = lastPiece name ∧
        ('_' ∉ name.toList → lastPiece name = name)) ∧
      (username.getD "" = "" →
        dated.username = some (String.ofList (token u)) ∧
        dated.uniqueId = String.ofList (token u) ∧
        stamped.username = none ∧ stamped.uniqueId = String.ofList (token u)) ∧
      plain.username = none ∧ plain.uniqueId = String.ofList (secondToken u) := by
  refine ⟨_, _, _, parse_standard t u username, parse_timestamped t u username, parse_simple u,
    rfl, rfl, rfl, readInt64?_signedDigits ht, ?_, ?_, rfl, rfl⟩
  · rintro name rfl hname
    have hending : ending u (some name) = lastPiece name := if_neg hname
    have hgiven : ¬(some name).getD "" = "" := hname
    simp only [hending, if_neg hgiven, true_and]
    exact lastPiece_eq_self
  · intro hnone
    have hending : ending u username = String.ofList (token u) := if_pos hnone
    simp only [hending, if_pos hnone, true_and]

/-- An order of "bob_99" long before 1970: the user that is read is "99". -/
theorem parse_drawn_of_old_time :
    let t := Instant.ofSeconds (-62198755201)
    let u : Uuid := ⟨0x1a2b3c4d5e6f47a88b9c0d1e2f3a4b5c, by decide⟩
    (-(2 ^ 63) ≤ t.seconds ∧ t.seconds < 2 ^ 63) ∧
      ∃ dated stamped plain : Components,
        parse (standard t u (some "bob_99")).text = .ok dated ∧
        parse (timestamped t u (some "bob_99")).text = .ok stamped ∧
        parse (simple u).text = .ok plain ∧
        dated.username = some "99" ∧ stamped.username = some "99" ∧
        stamped.unixTimestamp = some (-62198755201) ∧
        plain.uniqueId = "47a88b9c0d1e" := by
  intro t u
  have ht : -(2 ^ 63) ≤ t.seconds ∧ t.seconds < 2 ^ 63 := by decide
  obtain ⟨dated, stamped, plain, hdated, hstamped, hplain, -, -, -, hseconds, hname, -, -,
    hunique⟩ := parse_drawn ht u (some "bob_99")
  obtain ⟨hdatedUser, -, hstampedUser, -⟩ := hname "bob_99" rfl (by decide)
  have hpiece : lastPiece "bob_99" = "99" := by decide +kernel
  rw [hpiece] at hdatedUser hstampedUser
  have htoken : String.ofList (secondToken u) = "47a88b9c0d1e" := by decide +kernel
  exact ⟨ht, dated, stamped, plain, hdated, hstamped, hplain, hdatedUser, hstampedUser, hseconds,
    hunique.trans htoken⟩

/-! ## Telling the kind -/

/-- The kind of an order ID that can be read is told from its second segment. -/
theorem describe_of_parse {s : String} {components : Components} (h : parse s = .ok components) :
    describe s = {
      valid := true
      format := some (if components.unixTimestamp.isSome then .timestamped else .standard)
      components := some components
      error := none } := by
  rw [describe, h]

/-- **Order IDs are classified by their second segment.** A simple order ID is of the standard kind
and has no seconds exactly if there is a letter in its first token. If there is none, it passes for
a timestamped one, and its seconds are the number with these twelve digits. A timestamped one has
the seconds of its time, whatever its token and its name are. -/
theorem describe_drawn {t : Instant} (ht : -(2 ^ 63) ≤ t.seconds ∧ t.seconds < 2 ^ 63) (u : Uuid)
    (username : Option String) :
    ∃ plain stamped : Components,
      ((∃ c ∈ firstToken u, c.isDigit = false) → plain.unixTimestamp = none ∧
        describe (simple u).text =
          { valid := true, format := some .standard, components := some plain, error := none }) ∧
      ((∀ c ∈ firstToken u, c.isDigit = true) → ∃ n : Nat, firstToken u = zeroPadded 12 n ∧
        plain.unixTimestamp = some (n : Int) ∧
        describe (simple u).text =
          { valid := true, format := some .timestamped, components := some plain, error := none }) ∧
      stamped.unixTimestamp = some t.seconds ∧
      describe (timestamped t u username).text =
        { valid := true, format := some .timestamped, components := some stamped,
          error := none } := by
  obtain ⟨plain, hplain, hread⟩ : ∃ components, parse (simple u).text = .ok components ∧
      components.unixTimestamp = (ofDigits? (firstToken u)).map Int.ofNat :=
    ⟨_, parse_simple u, by dsimp only⟩
  obtain ⟨stamped, hstamped, hseconds⟩ : ∃ components,
      parse (timestamped t u username).text = .ok components ∧
        components.unixTimestamp = some t.seconds :=
    ⟨_, parse_timestamped t u username, readInt64?_signedDigits ht⟩
  refine ⟨plain, stamped, ?_, ?_, hseconds, ?_⟩
  · rintro ⟨c, hc, hletter⟩
    have hnone : plain.unixTimestamp = none := by
      rw [hread, Option.map_eq_none_iff, Option.eq_none_iff_forall_ne_some]
      intro n hn
      rw [(eq_zeroPadded_of_ofDigits? hn).2] at hc
      exact notMem_zeroPadded hletter _ _ hc
    refine ⟨hnone, ?_⟩
    rw [describe_of_parse hplain, hnone]
    rfl
  · intro hdigits
    have hne : firstToken u ≠ [] := List.ne_nil_of_length_pos (by rw [length_firstToken]; decide)
    obtain ⟨n, hn⟩ := exists_ofDigits? hne hdigits
    have hnumeral := (eq_zeroPadded_of_ofDigits? hn).2
    rw [length_firstToken] at hnumeral
    have hsome : plain.unixTimestamp = some (n : Int) := by rw [hread, hn]; rfl
    refine ⟨n, hnumeral, hsome, ?_⟩
    rw [describe_of_parse hplain, hsome]
    rfl
  · rw [describe_of_parse hstamped, hseconds]
    rfl

/-- A simple order ID with a letter at the end of its first token, and an order ID of a time before
1970. -/
theorem describe_drawn_of_letter :
    let t := Instant.ofSeconds (-1)
    let u : Uuid := ⟨0x12345678901f45678901234567890123, by decide⟩
    (-(2 ^ 63) ≤ t.seconds ∧ t.seconds < 2 ^ 63) ∧ (∃ c ∈ firstToken u, c.isDigit = false) ∧
      (describe (simple u).text).format = some .standard ∧
      (describe (timestamped t u (some "1_2")).text).format = some .timestamped := by
  intro t u
  have ht : -(2 ^ 63) ≤ t.seconds ∧ t.seconds < 2 ^ 63 := by decide
  have hletter : ∃ c ∈ firstToken u, c.isDigit = false := ⟨'f', by decide +kernel, by decide⟩
  obtain ⟨plain, stamped, hplain, -, -, hstamped⟩ := describe_drawn ht u (some "1_2")
  exact ⟨ht, hletter, by rw [(hplain hletter).2], by rw [hstamped]⟩

/-- A random identifier may have no letter in front. Then the simple order ID passes for a
timestamped one. -/
theorem describe_of_digits_only :
    let u : Uuid := ⟨0x12345678901245678901234567890123, by decide⟩
    u.IsRandom ∧ (simple u).text = "ord_123456789012_456789012345" ∧
      (describe (simple u).text).format ≠ some .standard ∧
      (describe (simple u).text).components.bind (·.unixTimestamp) = some 123456789012 := by
  intro u
  refine ⟨⟨by decide +kernel, '8', by decide, by decide +kernel⟩, by decide +kernel,
    by decide +kernel, by decide +kernel⟩

end OrderId

end OrderDesk
