import Mathlib.Data.List.Chain
import Mathlib.Data.List.Infix
import Mathlib.Data.List.TakeWhile
import OrderDesk.Config.Interpolation

/-!
# Replacing variables in one pass

The references of a configuration text are found in one pass from left to right, and one would
expect their values to be put in along the way. They are put in one after another instead, each of
them wherever it is written at that time. The two agree for a text with one reference, and for a
text in which nothing that is put in, or that stands beside it, can open another reference. They
do not agree in general: a value that spells a later reference is replaced with it.

## Main definitions

* `OrderDesk.Interpolation.Scan` — a text cut into pieces, told without the algorithm.
* `OrderDesk.Interpolation.onePass` — a text with the values put in along the way.
* `OrderDesk.Interpolation.IsPlain` — a text in which no reference can come about.

## Main results

* `OrderDesk.Interpolation.reference?_eq_some_iff` — what a reference at the start of a text is.
* `OrderDesk.Interpolation.scan_iff` — the pieces of a text are the ones of a scan.
* `OrderDesk.Interpolation.expand_eq_onePass` — when one pass would do the same.
-/

set_option autoImplicit false

namespace OrderDesk.Interpolation

variable {environment : Environment} {cs : List Char} {r r' : Reference}

/-! ## A reference at the start of a text -/

namespace Reference

/-- A reference that can be written: a name, and a default without a closing brace. -/
structure IsWellFormed (r : Reference) : Prop where
  head : r.name.head?.any isNameStart
  name : ∀ c ∈ r.name, isNameChar c
  default : ∀ text ∈ r.default, '\x7d' ∉ text

/-- What is written behind the name of a reference. -/
def ending (r : Reference) : List Char :=
  (match r.default with
    | some text => ':' :: '-' :: text
    | none => []) ++ ['\x7d']

/-- A reference is an opening, a name and an ending. -/
theorem written_eq (r : Reference) : r.written = '$' :: '\x7b' :: (r.name ++ r.ending) := by
  cases h : r.default <;> simp [written, ending, h]

/-- What is left behind a reference, told from its second character. -/
theorem drop_written {c : Char} {rest : List Char} (h : r.written ++ cs = c :: rest) :
    rest.drop (r.written.length - 1) = cs := by
  have hdrop : (r.written ++ cs).drop r.written.length = cs := List.drop_left
  rw [h] at hdrop
  simpa [written] using hdrop

/-- What comes behind a name does not belong to it. -/
theorem takeWhile_ending (r : Reference) (rest : List Char) :
    (r.ending ++ rest).takeWhile isNameChar = [] := by
  cases h : r.default <;> simp [ending, h, isNameChar]

end Reference

/-- The name of a reference is read up to its ending. -/
theorem takeWhile_name (h : r.IsWellFormed) (rest : List Char) :
    (r.name ++ (r.ending ++ rest)).takeWhile isNameChar = r.name := by
  rw [List.takeWhile_append_of_pos h.name, r.takeWhile_ending, List.append_nil]

/-- A default is read up to the closing brace. -/
theorem takeWhile_default {text : List Char} (h : '\x7d' ∉ text) (rest : List Char) :
    (text ++ '\x7d' :: rest).takeWhile (· != '\x7d') = text := by
  rw [List.takeWhile_append_of_pos]
  · simp
  · intro c hc
    simpa using ne_of_mem_of_not_mem hc h

/-- A reference that is written is read. -/
theorem readReference?_written (h : r.IsWellFormed) (rest : List Char) :
    readReference? (r.name ++ (r.ending ++ rest)) = some r := by
  have hname := takeWhile_name h rest
  obtain ⟨name, default⟩ := r
  simp only [readReference?, hname, h.head, List.drop_left, Bool.not_true, Bool.false_eq_true,
    if_false]
  cases default with
  | none => simp [Reference.ending]
  | some text =>
    have htext := takeWhile_default (h.default text rfl) rest
    simp [Reference.ending, htext]

/-- A default that ends before its text does is closed. -/
theorem takeWhile_closed {rest : List Char}
    (h : (rest.takeWhile (· != '\x7d')).length < rest.length) :
    rest.takeWhile (· != '\x7d') ++ ['\x7d'] <+: rest := by
  induction rest with
  | nil => cases h
  | cons c rest ih =>
    by_cases hc : c = '\x7d'
    · simp [hc]
    · have htake : (c :: rest).takeWhile (· != '\x7d') = c :: rest.takeWhile (· != '\x7d') := by
        simp [hc]
      rw [htake] at h ⊢
      rw [List.cons_append, List.cons_prefix_cons]
      exact ⟨rfl, ih (by simpa using h)⟩

/-- A reference that is read is written. -/
theorem written_of_readReference? (h : readReference? cs = some r) :
    r.IsWellFormed ∧ r.name ++ r.ending <+: cs := by
  have hcs : cs.takeWhile isNameChar ++ cs.dropWhile isNameChar = cs :=
    List.takeWhile_append_dropWhile
  have hname : ∀ c ∈ cs.takeWhile isNameChar, isNameChar c := fun _ hc => List.mem_takeWhile_imp hc
  have hdrop : cs.drop (cs.takeWhile isNameChar).length = cs.dropWhile isNameChar := by
    have hbehind : (cs.takeWhile isNameChar ++ cs.dropWhile isNameChar).drop
        (cs.takeWhile isNameChar).length = cs.dropWhile isNameChar := List.drop_left
    rwa [hcs] at hbehind
  simp only [readReference?, hdrop] at h
  generalize cs.takeWhile isNameChar = name at *
  generalize cs.dropWhile isNameChar = rest at *
  subst hcs
  split at h
  · cases h
  rename_i hhead
  have hhead : name.head?.any isNameStart := by simpa using hhead
  split at h
  · obtain rfl := Option.some.inj h
    refine ⟨⟨hhead, hname, by simp⟩, ?_⟩
    simp [Reference.ending, List.prefix_append_right_inj]
  · rename_i rest
    split at h
    · rename_i hlt
      obtain rfl := Option.some.inj h
      refine ⟨⟨hhead, hname, ?_⟩, ?_⟩
      · rintro text ⟨⟩ hmem
        simpa using List.mem_takeWhile_imp hmem
      · have := takeWhile_closed hlt
        simpa [Reference.ending, List.prefix_append_right_inj] using this
    · cases h
  · cases h

/-- A text starts with a reference exactly if it starts with one that is written. -/
theorem reference?_eq_some_iff : reference? cs = some r ↔ r.IsWellFormed ∧ r.written <+: cs := by
  rw [r.written_eq]
  constructor
  · intro h
    unfold reference? at h
    split at h
    · obtain ⟨hr, hstart⟩ := written_of_readReference? h
      exact ⟨hr, by simpa using hstart⟩
    · cases h
  · rintro ⟨hr, rest, rfl⟩
    simpa [reference?] using readReference?_written hr rest

/-- At most one reference is written at the start of a text. -/
theorem eq_of_written_at (hr : r.IsWellFormed) (hr' : r'.IsWellFormed) (h : r.written <+: cs)
    (h' : r'.written <+: cs) : r = r' := by
  have hread := reference?_eq_some_iff.2 ⟨hr, h⟩
  rw [reference?_eq_some_iff.2 ⟨hr', h'⟩] at hread
  exact (Option.some.inj hread).symm

/-! ## One scan -/

/-- A text is cut into references and the characters between them: from left to right, a reference
is taken wherever one is written, and otherwise one character. -/
inductive Scan : List Char → List Piece → Prop
  | nil : Scan [] []
  | char {c : Char} {cs : List Char} {ps : List Piece} :
    (∀ r : Reference, r.IsWellFormed → ¬ r.written <+: c :: cs) → Scan cs ps →
      Scan (c :: cs) (.char c :: ps)
  | reference {r : Reference} {cs : List Char} {ps : List Piece} :
    r.IsWellFormed → Scan cs ps → Scan (r.written ++ cs) (.reference r :: ps)

/-- The characters that belong to the reference before are passed over. -/
theorem piecesFrom_skip (skip : Nat) (cs : List Char) :
    piecesFrom skip cs = piecesFrom 0 (cs.drop skip) := by
  induction cs generalizing skip with
  | nil => simp [piecesFrom]
  | cons c cs ih =>
    cases skip with
    | zero => rfl
    | succ skip => simpa [piecesFrom] using ih skip

/-- The pieces behind a reference are those of the rest. -/
theorem pieces_written (hr : r.IsWellFormed) (cs : List Char) :
    pieces (r.written ++ cs) = .reference r :: pieces cs := by
  have hread := reference?_eq_some_iff.2 ⟨hr, List.prefix_append r.written cs⟩
  cases htext : r.written ++ cs with
  | nil => simp [Reference.written] at htext
  | cons c rest =>
    rw [htext] at hread
    simp only [pieces, piecesFrom, hread, piecesFrom_skip _ rest, Reference.drop_written htext]

/-- The pieces where no reference is written. -/
theorem pieces_cons {c : Char} (h : reference? (c :: cs) = none) :
    pieces (c :: cs) = .char c :: pieces cs := by
  simp only [pieces, piecesFrom, h]

/-- The pieces of a text are the ones of a scan. -/
theorem scan_pieces (cs : List Char) : Scan cs (pieces cs) := by
  induction hn : cs.length using Nat.strong_induction_on generalizing cs with
  | _ n ih =>
    cases cs with
    | nil => exact .nil
    | cons c cs =>
      cases hread : reference? (c :: cs) with
      | none =>
        rw [pieces_cons hread]
        refine .char (fun r hr h => ?_) (ih cs.length (by simp [← hn]) cs rfl)
        rw [reference?_eq_some_iff.2 ⟨hr, h⟩] at hread
        cases hread
      | some r =>
        obtain ⟨hr, rest, hrest⟩ := reference?_eq_some_iff.1 hread
        rw [← hrest] at hn ⊢
        rw [pieces_written hr]
        refine .reference hr (ih rest.length ?_ rest rfl)
        rw [← hn, List.length_append]
        simp [Reference.written]

/-- A text can be scanned in one way only. -/
theorem scan_iff {ps : List Piece} : Scan cs ps ↔ ps = pieces cs := by
  constructor
  · intro h
    induction h with
    | nil => rfl
    | @char c cs ps hnone _ ih =>
      have hread : reference? (c :: cs) = none := by
        rw [Option.eq_none_iff_forall_ne_some]
        intro r hr
        obtain ⟨hwell, hstart⟩ := reference?_eq_some_iff.1 hr
        exact hnone r hwell hstart
      rw [pieces_cons hread, ih]
    | reference hwell _ ih => rw [pieces_written hwell, ih]
  · rintro rfl
    exact scan_pieces cs

/-! ## Replacing one reference -/

/-- Nothing is replaced inside a text where no occurrence starts. -/
theorem replaceFrom_append {pattern value w : List Char}
    (h : ∀ u v : List Char, w = u ++ v → v ≠ [] → ¬ pattern <+: v ++ cs) :
    replaceFrom pattern value 0 (w ++ cs) = w ++ replaceFrom pattern value 0 cs := by
  induction w with
  | nil => rfl
  | cons c w ih =>
    have hstart : ¬ pattern.isPrefixOf (c :: (w ++ cs)) :=
      mt List.isPrefixOf_iff_prefix.1 (h [] (c :: w) rfl (by simp))
    have htail : replaceFrom pattern value 0 (w ++ cs) = w ++ replaceFrom pattern value 0 cs := by
      apply ih
      intro u v hw
      exact h (c :: u) v (by rw [hw, List.cons_append])
    rw [List.cons_append, replaceFrom, if_neg hstart, htail, List.cons_append]

/-- The characters that belong to the occurrence before are passed over. -/
theorem replaceFrom_skip {pattern value : List Char} (skip : Nat) (cs : List Char) :
    replaceFrom pattern value skip cs = replaceFrom pattern value 0 (cs.drop skip) := by
  induction cs generalizing skip with
  | nil => simp [replaceFrom]
  | cons c cs ih =>
    cases skip with
    | zero => rfl
    | succ skip => simpa [replaceFrom] using ih skip

/-- A reference that is written at the start of a text is replaced. -/
theorem replace_written (environment : Environment) (r : Reference) (cs : List Char) :
    replace environment (r.written ++ cs) r = r.value environment ++ replace environment cs r := by
  cases htext : r.written ++ cs with
  | nil => simp [Reference.written] at htext
  | cons c rest =>
    have hstart : r.written.isPrefixOf (c :: rest) :=
      List.isPrefixOf_iff_prefix.2 ⟨cs, htext⟩
    rw [replace, replaceFrom, if_pos hstart, replaceFrom_skip, Reference.drop_written htext]
    rfl

/-! ## One reference after another -/

/-- A piece of a text in which the references `done` have been replaced. -/
def Piece.text (environment : Environment) (done : List Reference) : Piece → List Char
  | .char c => [c]
  | .reference r => if r ∈ done then r.value environment else r.written

/-- A text in which the references `done` have been replaced. -/
def textOf (environment : Environment) (done : List Reference) (ps : List Piece) : List Char :=
  ps.flatMap (·.text environment done)

/-- A text with the values of its references put in along the way. -/
def onePass (environment : Environment) (cs : List Char) : List Char :=
  (pieces cs).flatMap fun
    | .char c => [c]
    | .reference r => r.value environment

/-- A reference occurs nowhere in a text but where it stands: no occurrence starts inside a
character or inside another reference, be that replaced or not. -/
def StandsAlone (environment : Environment) (done : List Reference) (r : Reference)
    (ps : List Piece) : Prop :=
  ∀ (p : Piece) (back : List Piece), p :: back <:+ ps → (p = .reference r → r ∈ done) →
    ∀ u v : List Char, p.text environment done = u ++ v → v ≠ [] →
      ¬ r.written <+: v ++ textOf environment done back

/-- A text starts with its first piece. -/
@[simp]
theorem textOf_cons (environment : Environment) (done : List Reference) (p : Piece)
    (ps : List Piece) :
    textOf environment done (p :: ps) = p.text environment done ++ textOf environment done ps :=
  rfl

/-- A text in which nothing has been replaced is the text that was scanned. -/
theorem textOf_nil {ps : List Piece} (h : Scan cs ps) : textOf environment [] ps = cs := by
  induction h with
  | nil => rfl
  | char _ _ ih => simp [Piece.text, ih]
  | reference _ _ ih => simp [Piece.text, ih]

/-- What another reference does to a piece. -/
theorem Piece.text_concat {done : List Reference} {p : Piece} (h : p = .reference r → r ∈ done) :
    p.text environment (done ++ [r]) = p.text environment done := by
  cases p with
  | char c => rfl
  | reference r' =>
    by_cases hr : r' = r
    · subst hr
      simp [Piece.text, h rfl]
    · simp [Piece.text, hr]

/-- A reference that stands alone is replaced where it stands, and nowhere else. -/
theorem replace_textOf {done : List Reference} {ps : List Piece}
    (h : StandsAlone environment done r ps) :
    replace environment (textOf environment done ps) r = textOf environment (done ++ [r]) ps := by
  induction ps with
  | nil => rfl
  | cons p ps ih =>
    have htail : replace environment (textOf environment done ps) r =
        textOf environment (done ++ [r]) ps :=
      ih fun p back hsuffix => h p back (hsuffix.trans (List.suffix_cons _ ps))
    rw [textOf_cons, textOf_cons]
    by_cases hp : p = .reference r → r ∈ done
    · rw [replace, replaceFrom_append (h p ps List.suffix_rfl hp), Piece.text_concat hp, ← htail]
      rfl
    · obtain ⟨rfl, hr⟩ := Classical.not_imp.1 hp
      have hold : (Piece.reference r).text environment done = r.written := by simp [Piece.text, hr]
      have hnew : (Piece.reference r).text environment (done ++ [r]) = r.value environment := by
        simp [Piece.text]
      rw [hold, hnew, replace_written, htail]

/-- References that stand alone, each at its time, are replaced where they stand. -/
theorem foldl_replace_textOf {rs : List Reference} {ps : List Piece}
    (h : ∀ front r back, rs = front ++ r :: back → StandsAlone environment front r ps) :
    rs.foldl (replace environment) (textOf environment [] ps) = textOf environment rs ps := by
  induction rs using List.reverseRecOn with
  | nil => rfl
  | append_singleton rs r ih =>
    have hbefore := ih fun front r' back hrs => h front r' (back ++ [r]) (by simp [hrs])
    rw [List.foldl_concat, hbefore, replace_textOf (h rs r [] rfl)]

/-- The references of a text are among its pieces. -/
theorem mem_references_iff : r ∈ references cs ↔ .reference r ∈ pieces cs := by
  simp only [references, List.mem_filterMap]
  constructor
  · rintro ⟨p, hp, hr⟩
    cases p with
    | char c => cases hr
    | reference r' => cases hr; exact hp
  · intro hr
    exact ⟨_, hr, rfl⟩

/-- Once all references have been replaced, the text is the one of a single pass. -/
theorem textOf_references (environment : Environment) (cs : List Char) :
    textOf environment (references cs) (pieces cs) = onePass environment cs := by
  refine List.flatMap_congr fun p hp => ?_
  cases p with
  | char c => rfl
  | reference r => simp [Piece.text, mem_references_iff.2 hp]

/-- A text whose references stand alone, each at its time, is expanded as in one pass. -/
theorem expand_eq_of_standsAlone {s : String}
    (h : ∀ front r back, references s.toList = front ++ r :: back →
      StandsAlone environment front r (pieces s.toList)) :
    expand environment s = String.ofList (onePass environment s.toList) := by
  have hfold := foldl_replace_textOf h
  rw [textOf_nil (scan_pieces s.toList), textOf_references] at hfold
  rw [expand, hfold]

/-! ## A single reference -/

/-- No reference is written at a character of a scan. -/
theorem Scan.not_written_at {ps : List Piece} (h : Scan cs ps) {c : Char} {back : List Piece}
    (hsuffix : .char c :: back <:+ ps) (hr : r.IsWellFormed) :
    ¬ r.written <+: c :: textOf environment [] back := by
  induction h with
  | nil => simp at hsuffix
  | char hnone htail ih =>
    rcases List.suffix_cons_iff.1 hsuffix with heq | hsuffix
    · obtain ⟨hc, rfl⟩ := List.cons.inj heq
      obtain rfl := Piece.char.inj hc
      rw [textOf_nil htail]
      exact hnone r hr
    · exact ih hsuffix
  | reference _ _ ih =>
    rcases List.suffix_cons_iff.1 hsuffix with heq | hsuffix
    · cases (List.cons.inj heq).1
    · exact ih hsuffix

/-- The references of a scan can be written. -/
theorem Scan.isWellFormed {ps : List Piece} (h : Scan cs ps) (hr : .reference r ∈ ps) :
    r.IsWellFormed := by
  induction h with
  | nil => cases hr
  | char _ _ ih => exact ih (by simpa using hr)
  | reference hwell _ ih =>
    rcases List.mem_cons.1 hr with heq | hr
    · obtain rfl := Piece.reference.inj heq
      exact hwell
    · exact ih hr

/-- What starts inside a character is that character. -/
theorem eq_of_char_text {c : Char} {done : List Reference} {u v : List Char}
    (h : (Piece.char c).text environment done = u ++ v) (hv : v ≠ []) : u = [] ∧ v = [c] := by
  rcases List.append_eq_singleton_iff.1 h.symm with huv | ⟨-, hnil⟩
  · exact huv
  · exact absurd hnil hv

/-- The only reference of a text stands alone. -/
theorem standsAlone_of_length_le_one (h : (references cs).length ≤ 1) {front back : List Reference}
    (hsplit : references cs = front ++ r :: back) :
    StandsAlone environment front r (pieces cs) := by
  have hlength := congrArg List.length hsplit
  rw [List.length_append, List.length_cons] at hlength
  obtain rfl : front = [] := List.length_eq_zero_iff.1 (by omega)
  obtain rfl : back = [] := List.length_eq_zero_iff.1 (by omega)
  have hr : r ∈ references cs := by simp [hsplit]
  intro p rest hsuffix hp u v htext hv
  cases p with
  | char c =>
    obtain ⟨-, rfl⟩ := eq_of_char_text htext hv
    exact (scan_pieces cs).not_written_at hsuffix
      ((scan_pieces cs).isWellFormed (mem_references_iff.1 hr))
  | reference r' =>
    have hr' : r' ∈ references cs := mem_references_iff.2 (hsuffix.subset List.mem_cons_self)
    obtain rfl : r' = r := by simpa [hsplit] using hr'
    cases hp rfl

/-! ## A text in which no reference can come about -/

/-- The two characters that open a reference. -/
def opening : List Char :=
  ['$', '\x7b']

/-- A character other than an opening brace. -/
def Piece.keepsApart : Piece → Bool
  | .char c => c != '\x7b'
  | .reference _ => false

/-- A text in which no reference can come about: no value contains an opening or the first half of
one at its end, no default contains one, and behind a dollar sign of the text itself there is
neither a brace nor a reference. -/
structure IsPlain (environment : Environment) (cs : List Char) : Prop where
  value : ∀ r ∈ references cs, ¬ opening <:+: r.value environment ++ ['\x7b']
  default : ∀ r ∈ references cs, ∀ text ∈ r.default, ¬ opening <:+: text
  dollar : (pieces cs).IsChain fun p p' => p = .char '$' → p'.keepsApart

/-- Every reference starts with an opening. -/
theorem opening_at_start (r : Reference) : opening <+: r.written :=
  ⟨r.name ++ r.ending, by simp [opening, r.written_eq]⟩

/-- Without a dollar sign nothing is opened. -/
theorem opening_infix_append_iff {w : List Char} (h : '$' ∉ w) :
    opening <:+: w ++ cs ↔ opening <:+: cs := by
  induction w with
  | nil => rfl
  | cons c w ih =>
    have hc : ¬ opening <+: c :: (w ++ cs) := by
      rintro ⟨rest, hrest⟩
      exact h (List.mem_cons.2 (.inl (List.cons.inj hrest).1))
    rw [List.cons_append, List.infix_cons_iff, ih fun hw => h (List.mem_cons_of_mem c hw)]
    exact or_iff_right hc

/-- What starts inside a text and opens a reference is there before a brace is added. -/
theorem opening_brace {v rest : List Char} (hv : v ≠ []) (h : opening <+: v ++ rest) :
    opening <+: v ++ ['\x7b'] := by
  obtain ⟨tail, htail⟩ := h
  match v with
  | [c] =>
    obtain ⟨rfl, -⟩ := List.cons.inj htail
    exact List.prefix_rfl
  | c :: d :: v =>
    obtain ⟨hc, htail⟩ := List.cons.inj htail
    obtain ⟨hd, -⟩ := List.cons.inj htail
    exact ⟨v ++ ['\x7b'], by rw [← hc, ← hd]; rfl⟩

/-- Nothing is opened by what is added behind a closing brace. -/
theorem not_opening_closed {text : List Char} (h : ¬ opening <:+: text) :
    ¬ opening <:+: text ++ ['\x7d'] ++ ['\x7b'] := by
  have hbrace : ∀ {c : Char} {w : List Char}, opening <:+ w ++ [c] → ['$'] <:+ w ∧ c = '\x7b' := by
    rintro c w ⟨front, hfront⟩
    rw [show opening = ['$'] ++ ['\x7b'] from rfl, ← List.append_assoc] at hfront
    obtain ⟨rfl, hc⟩ := List.append_inj' hfront rfl
    exact ⟨List.suffix_append front ['$'], by simpa using hc.symm⟩
  rw [List.infix_concat_iff, List.infix_concat_iff]
  rintro (hsuffix | hsuffix | hmem)
  · obtain ⟨⟨front, hfront⟩, -⟩ := hbrace hsuffix
    simpa using (List.append_inj' hfront rfl).2
  · cases (hbrace hsuffix).2
  · exact h hmem

/-- A reference with a plain default opens nothing behind its own opening. -/
theorem Reference.IsWellFormed.not_opening_behind (hr : r.IsWellFormed)
    (hdefault : ∀ text ∈ r.default, ¬ opening <:+: text) :
    ¬ opening <:+: '\x7b' :: (r.name ++ r.ending) ++ ['\x7b'] := by
  have hname : '$' ∉ '\x7b' :: r.name := by
    intro h
    rcases List.mem_cons.1 h with h | h
    · cases h
    · simpa [isNameChar] using hr.name _ h
  rw [← List.cons_append, List.append_assoc, opening_infix_append_iff hname]
  cases h : r.default with
  | none =>
    simp only [ending, h]
    decide
  | some text =>
    have hmarks : '$' ∉ [':', '-'] := by decide
    have hending : r.ending ++ ['\x7b'] = [':', '-'] ++ (text ++ ['\x7d'] ++ ['\x7b']) := by
      simp [ending, h]
    rw [hending, opening_infix_append_iff hmarks]
    exact not_opening_closed (hdefault text h)

/-- In a plain text every reference stands alone. -/
theorem IsPlain.standsAlone (h : IsPlain environment cs) {done : List Reference}
    (hr : r ∈ references cs) : StandsAlone environment done r (pieces cs) := by
  have hwell : ∀ {r}, r ∈ references cs → r.IsWellFormed := fun hr =>
    (scan_pieces cs).isWellFormed (mem_references_iff.1 hr)
  intro p back hsuffix hp u v htext hv hoccurs
  have hopen := (opening_at_start r).trans hoccurs
  have hbrace := opening_brace hv hopen
  cases p with
  | char c =>
    -- behind a dollar sign there is something that keeps it from opening a reference
    obtain ⟨-, rfl⟩ := eq_of_char_text htext hv
    obtain ⟨tail, htail⟩ := hopen
    obtain ⟨rfl, hbehind⟩ := List.cons.inj htail
    have hchain := h.dollar.suffix hsuffix
    cases back with
    | nil => cases hbehind
    | cons p' back =>
      have hapart := (List.isChain_cons_cons.1 hchain).1 rfl
      cases p' with
      | char c =>
        obtain ⟨rfl, -⟩ := List.cons.inj hbehind
        cases hapart
      | reference r' => cases hapart
  | reference r' =>
    have hr' : r' ∈ references cs := mem_references_iff.2 (hsuffix.subset List.mem_cons_self)
    by_cases hdone : r' ∈ done
    · -- no opening starts inside a value
      have hvalue : r'.value environment = u ++ v := by simpa [Piece.text, hdone] using htext
      apply h.value r' hr'
      rw [hvalue, List.append_assoc]
      exact hbrace.isInfix.trans (List.suffix_append u _).isInfix
    · have hwritten : r'.written = u ++ v := by simpa [Piece.text, hdone] using htext
      cases u with
      | nil =>
        -- two references that start at one place are the same
        have hstart : r'.written <+: v ++ textOf environment done back :=
          ⟨textOf environment done back, by rw [hwritten]; rfl⟩
        obtain rfl := eq_of_written_at (hwell hr) (hwell hr') hoccurs hstart
        exact hdone (hp rfl)
      | cons c u =>
        -- no opening starts inside a written reference behind its own
        apply (hwell hr').not_opening_behind (h.default r' hr')
        rw [r'.written_eq, List.cons_append] at hwritten
        rw [(List.cons.inj hwritten).2, List.append_assoc]
        exact hbrace.isInfix.trans (List.suffix_append u _).isInfix

/-! ## When one pass does the same -/

/-- **One pass.** For every text and every environment: if the text has at most one reference, or
no reference can come about in it, then what is made of it is what one pass from left to right
makes of it: the pieces of a scan, each reference with its value, everything else as it stands. A
value is not looked at again, and it has no influence on another one. -/
theorem expand_eq_onePass (environment : Environment) (s : String)
    (h : (references s.toList).length ≤ 1 ∨ IsPlain environment s.toList) :
    expand environment s = String.ofList (onePass environment s.toList) := by
  apply expand_eq_of_standsAlone
  intro front r back hsplit
  rcases h with hlength | hplain
  · exact standsAlone_of_length_le_one hlength hsplit
  · exact hplain.standsAlone (by simp [hsplit])

/-- A text with three references and a dollar sign of its own. -/
theorem expand_eq_onePass_of_plain :
    expand [("A", "$1")] "$5 $\x7bA\x7d-$\x7bB:-2\x7d-$\x7bC\x7d" =
      String.ofList (onePass [("A", "$1")] "$5 $\x7bA\x7d-$\x7bB:-2\x7d-$\x7bC\x7d".toList) :=
  expand_eq_onePass _ _ (.inr ⟨by decide +kernel, by decide +kernel, by decide +kernel⟩)

/-- A value that spells a later reference is replaced with it, so that it is not what one pass puts
in; with the two references exchanged it stays. -/
theorem value_replaced_again :
    let environment := [("A", "$\x7bB\x7d"), ("B", "2")]
    expand environment "$\x7bA\x7d $\x7bB\x7d" = "2 2" ∧
      String.ofList (onePass environment "$\x7bA\x7d $\x7bB\x7d".toList) = "$\x7bB\x7d 2" ∧
      expand environment "$\x7bB\x7d $\x7bA\x7d" = "2 $\x7bB\x7d" := by
  decide +kernel

end OrderDesk.Interpolation
