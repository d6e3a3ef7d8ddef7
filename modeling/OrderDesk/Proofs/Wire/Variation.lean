import OrderDesk.Json.Record
import Mathlib.Data.List.Forall2
import Mathlib.Data.List.Nodup
import Mathlib.Data.List.Perm.Basic

/-!
# Objects with the same fields

Two objects can be read as the same record although they are written differently: the members may
come in another order, there may be others with names that the record does not know, and a member
that is null may be left out. The fields of the record are found all the same.

## Main definitions

* `OrderDesk.Json.MembersVary`, `OrderDesk.Json.Varies` — values that differ in this only.
* `OrderDesk.Json.Shows` — a field that is found holds a variant of a value.
* `OrderDesk.Json.Reads` — all variants of a value are read as one and the same thing.

## Main results

* `OrderDesk.Json.Varies.exists_fields` — the fields of a varied object.
* `OrderDesk.Json.Shows.required`, `OrderDesk.Json.Shows.optional` — fields that are read.
* `OrderDesk.Json.Reads.mapM` — arrays of values that are read.
-/

set_option autoImplicit false

namespace OrderDesk.Json

/-! ## Variants -/

/-- Each of the members has a variant of its value, but those that are **null may be left out**. -/
inductive MembersVary (V : Json → Json → Prop) :
    List (Option String × Json) → List (Option String × Json) → Prop
  | nil : MembersVary V [] []
  | keep {name : Option String} {value value' : Json} {members varied}
      (hvalue : V value value') (h : MembersVary V members varied) :
      MembersVary V ((name, value) :: members) ((name, value') :: varied)
  | drop {name : Option String} {members varied} (h : MembersVary V members varied) :
      MembersVary V ((name, null) :: members) varied

/-- A value is a **variant** of another if its objects have the same members, each with a variant
of its value, in any order, except that members that are null may be left out and that there may be
others with other names. -/
inductive Varies : Json → Json → Prop
  | same (json : Json) : Varies json json
  | array {items items' : List Json} (h : List.Forall₂ Varies items items') :
      Varies (array items) (array items')
  | object {members varied extra members' : List (Option String × Json)}
      (h : MembersVary Varies members varied)
      (hextra : ∀ member ∈ extra,
        member.1.isSome ∧ member.1 ∉ members.map Prod.fst)
      (horder : members'.Perm (varied ++ extra)) :
      Varies (object members) (object members')

/-- A value with no parts: a truth value, a number or a text. -/
def IsScalar : Json → Prop
  | bool _ | number _ | string _ => True
  | null | array _ | object _ => False

section Values

variable {json json' : Json}

/-- Null is its only variant. -/
theorem Varies.of_null (h : Varies null json') : json' = null := by
  cases h
  rfl

/-- A value with no parts is its only variant. -/
theorem Varies.of_isScalar (h : Varies json json') (hjson : json.IsScalar) : json' = json := by
  cases h with
  | same => rfl
  | array => exact hjson.elim
  | object => exact hjson.elim

/-- The variants of an array are arrays of variants. -/
theorem Varies.of_array {items : List Json} (h : Varies (.array items) json') :
    ∃ items', json' = .array items' ∧ List.Forall₂ Varies items items' := by
  cases h with
  | same => exact ⟨items, rfl, List.forall₂_same.2 fun item _ => .same item⟩
  | array h => exact ⟨_, rfl, h⟩

/-- Members are variants of themselves. -/
theorem membersVary_refl (members : List (Option String × Json)) :
    MembersVary Varies members members := by
  induction members with
  | nil => exact .nil
  | cons member members ih => exact .keep (.same member.2) ih

/-- The variants of an object are objects of varied and further members. -/
theorem Varies.of_object {members : List (Option String × Json)}
    (h : Varies (.object members) json') :
    ∃ members' varied extra, json' = .object members' ∧ MembersVary Varies members varied ∧
      (∀ member ∈ extra, member.1.isSome ∧ member.1 ∉ members.map Prod.fst) ∧
      members'.Perm (varied ++ extra) := by
  cases h with
  | same => exact ⟨members, members, [], rfl, membersVary_refl members, by simp, by simp⟩
  | object h hextra horder => exact ⟨_, _, _, rfl, h, hextra, horder⟩

end Values

/-! ## Fields -/

/-- A field that is found **shows** a value: it holds a variant of it, or it is missing and the
value is null. -/
inductive Shows (value : Json) : Option Json → Prop
  | held {value' : Json} (h : Varies value value') : Shows value (some value')
  | missing (h : value = null) : Shows value none

/-- The field of a name, if no other member has it. -/
def field? (name : String) (members : List (Option String × Json)) : Option (Option Json) :=
  match valuesOf name members with
  | [] => some none
  | [value] => some (some value)
  | _ => none

section Fields

variable {name : String} {members varied : List (Option String × Json)}

/-- The fields of an object are looked up one by one. -/
theorem objectFields?_eq (names : List String) (h : ∀ member ∈ members, member.1.isSome) :
    objectFields? names members = names.mapM (field? · members) := by
  rw [objectFields?, if_pos (List.all_eq_true.2 h)]
  rfl

/-- No value has a name that no member has. -/
theorem valuesOf_eq_nil (h : some name ∉ members.map Prod.fst) : valuesOf name members = [] := by
  rw [valuesOf, List.map_eq_nil_iff, List.filter_eq_nil_iff]
  intro member hmember hname
  exact h (List.mem_map.2 ⟨member, hmember, by simpa using hname⟩)

/-- Varied members have no new names. -/
theorem MembersVary.subset {V : Json → Json → Prop} (h : MembersVary V members varied) :
    varied.map Prod.fst ⊆ members.map Prod.fst := by
  induction h with
  | nil => exact List.Subset.refl _
  | keep _ _ ih => exact List.cons_subset_cons _ ih
  | drop _ ih => exact List.Subset.trans ih (List.subset_cons_self _ _)

/-- A member that has its name to itself is found among the varied ones, unless it is null. -/
theorem MembersVary.exists_valuesOf {value : Json} (h : MembersVary Varies members varied)
    (hnodup : (members.map Prod.fst).Nodup) (hmem : (some name, value) ∈ members) :
    (∃ value', valuesOf name varied = [value'] ∧ Varies value value') ∨
      valuesOf name varied = [] ∧ value = null := by
  induction h with
  | nil => cases hmem
  | @keep name' value₀ value' members varied hvalue h ih =>
    rw [List.map_cons, List.nodup_cons] at hnodup
    rcases List.mem_cons.1 hmem with heq | hrest
    · obtain ⟨rfl, rfl⟩ := Prod.mk.inj heq
      have hnil := valuesOf_eq_nil fun hname => hnodup.1 (h.subset hname)
      exact .inl ⟨value', by simpa [valuesOf] using hnil, hvalue⟩
    · have hne : name' ≠ some name := by
        rintro rfl
        exact hnodup.1 (List.mem_map.2 ⟨_, hrest, rfl⟩)
      have hskip : valuesOf name ((name', value') :: varied) = valuesOf name varied := by
        simp [valuesOf, hne]
      rw [hskip]
      exact ih hnodup.2 hrest
  | @drop name' members varied h ih =>
    rw [List.map_cons, List.nodup_cons] at hnodup
    rcases List.mem_cons.1 hmem with heq | hrest
    · obtain ⟨rfl, rfl⟩ := Prod.mk.inj heq
      exact .inr ⟨valuesOf_eq_nil fun hname => hnodup.1 (h.subset hname), rfl⟩
    · exact ih hnodup.2 hrest

/-- Members of other names, and the order of all of them, do not matter to a field. -/
theorem field?_eq {extra members' : List (Option String × Json)}
    (hextra : some name ∉ extra.map Prod.fst) (horder : members'.Perm (varied ++ extra)) :
    field? name members' = field? name varied := by
  have hperm : (valuesOf name members').Perm (valuesOf name varied) := by
    have h := (horder.filter (·.1 == some name)).map Prod.snd
    rw [List.filter_append, List.map_append] at h
    change (valuesOf name members').Perm (valuesOf name varied ++ valuesOf name extra) at h
    rwa [valuesOf_eq_nil hextra, List.append_nil] at h
  unfold field?
  generalize valuesOf name members' = values' at hperm
  generalize valuesOf name varied = values at hperm
  match values with
  | [] => rw [hperm.eq_nil]
  | [value] => rw [hperm.eq_singleton]
  | value₁ :: value₂ :: values =>
    match values', hperm.length_eq with
    | [], hlength => cases hlength
    | [_], hlength => cases hlength
    | _ :: _ :: _, _ => rfl

/-- What is found for each of the names is found for all of them. -/
theorem exists_mapM {find : String → Option (Option Json)} {names : List String}
    {values : List Json}
    (h : List.Forall₂ (fun name value => ∃ field, find name = some field ∧ Shows value field)
      names values) :
    ∃ fields, names.mapM find = some fields ∧ List.Forall₂ Shows values fields := by
  induction h with
  | nil => exact ⟨[], rfl, .nil⟩
  | cons hfirst _ ih =>
    obtain ⟨field, hfield, hshows⟩ := hfirst
    obtain ⟨fields, hfields, hall⟩ := ih
    exact ⟨field :: fields, by rw [List.mapM_cons, hfield, hfields]; rfl, .cons hshows hall⟩

/-- **The fields of a varied object** show the values of its members.

**Proof sketch.** A name belongs to one member only. Its value is found among the varied members
unless it is null, and the members of other names do not matter. -/
theorem Varies.exists_fields {names : List String} {values : List Json} {json : Json}
    {omittable : Nat} (h : Varies (ofMembers (names.zip values)) json) (hnames : names.Nodup)
    (hlength : names.length = values.length) :
    ∃ fields, fields? names omittable json = some fields ∧ List.Forall₂ Shows values fields := by
  change Varies (Json.object ((names.zip values).map fun pair => (some pair.1, pair.2))) json at h
  obtain ⟨members', varied, extra, rfl, hvaried, hextra, horder⟩ := h.of_object
  have hmembers : ((names.zip values).map fun pair => (some pair.1, pair.2)).map Prod.fst =
      names.map some := by
    conv_rhs => rw [← List.map_fst_zip (Nat.le_of_eq hlength)]
    rw [List.map_map, List.map_map]
    rfl
  rw [hmembers] at hextra
  have hsome : ∀ member ∈ members', member.1.isSome := by
    intro member hmember
    rcases List.mem_append.1 (horder.mem_iff.1 hmember) with hin | hin
    · have hname := hvaried.subset (List.mem_map_of_mem hin)
      rw [hmembers] at hname
      obtain ⟨name, -, hname⟩ := List.mem_map.1 hname
      rw [← hname]
      rfl
    · exact (hextra member hin).1
  have hfield {name : String} {value : Json} (hin : (name, value) ∈ names.zip values) :
      ∃ field, field? name members' = some field ∧ Shows value field := by
    have hother : some name ∉ extra.map Prod.fst := by
      intro hname
      obtain ⟨member, hmember, hname⟩ := List.mem_map.1 hname
      refine (hextra member hmember).2 (hname ▸ List.mem_map_of_mem ?_)
      exact (List.of_mem_zip hin).1
    rw [field?_eq hother horder, field?]
    have hnodup := hnames.map fun _ _ => Option.some.inj
    rw [← hmembers] at hnodup
    rcases hvaried.exists_valuesOf hnodup (List.mem_map.2 ⟨_, hin, rfl⟩) with
      ⟨value', hvalue', hvaries⟩ | ⟨hnil, hnull⟩
    · rw [hvalue']
      exact ⟨_, rfl, .held hvaries⟩
    · rw [hnil]
      exact ⟨_, rfl, .missing hnull⟩
  obtain ⟨fields, hfields, hall⟩ := exists_mapM (List.forall₂_iff_zip.2 ⟨hlength, hfield⟩)
  exact ⟨fields, by rw [fields?, objectFields?_eq names hsome, hfields], hall⟩

end Fields

/-! ## Reading -/

/-- All variants of a value are **read** as `a`. -/
def Reads {α : Type} (read : Json → Option α) (json : Json) (a : α) : Prop :=
  ∀ json', Varies json json' → read json' = some a

section Reads

variable {α : Type} {read : Json → Option α} {json : Json} {a : α} {field : Option Json}

/-- A value with no parts is not null. -/
theorem IsScalar.ne_null (h : json.IsScalar) : json ≠ null := by
  rintro rfl
  exact h

/-- A value with no parts has no other variants to be read. -/
theorem IsScalar.reads (h : json.IsScalar) (hread : read json = some a) : Reads read json a := by
  intro json' hvaries
  rw [hvaries.of_isScalar h, hread]

/-- A field that must be there is read. -/
theorem Shows.required (h : Shows json field) (hjson : json ≠ null) (hread : Reads read json a) :
    Json.required field read = some a := by
  cases h with
  | held h => exact hread _ h
  | missing h => exact (hjson h).elim

/-- A field with no parts that must be there is read. -/
theorem Shows.scalar (h : Shows json field) (hjson : json.IsScalar) (hread : read json = some a) :
    Json.required field read = some a :=
  h.required hjson.ne_null (hjson.reads hread)

/-- A field that may be missing is read, if what it may hold has no parts. -/
theorem Shows.optional {toJson : α → Json} {o : Option α} (h : Shows (ofOption toJson o) field)
    (hjson : ∀ a ∈ o, (toJson a).IsScalar) (hread : ∀ a ∈ o, read (toJson a) = some a) :
    Json.optional field read = some o := by
  cases o with
  | none =>
    cases h with
    | held h =>
      obtain rfl := Varies.of_null h
      rfl
    | missing => rfl
  | some a =>
    have hscalar := hjson a rfl
    cases h with
    | held h =>
      obtain rfl := Varies.of_isScalar h hscalar
      have hvalue : read (ofOption toJson (some a)) = some a := hread a rfl
      unfold Json.optional
      split
      · next heq => cases heq
      · next heq => exact (hscalar.ne_null (Option.some.inj heq)).elim
      · next heq =>
        obtain rfl := Option.some.inj heq
        rw [hvalue, Option.map_some]
    | missing h => exact (hscalar.ne_null h).elim

/-- Arrays of values that are read are read. -/
theorem Reads.mapM {toJson : α → Json} {as : List α} (h : ∀ a ∈ as, Reads read (toJson a) a)
    {items : List Json} (hitems : List.Forall₂ Varies (as.map toJson) items) :
    items.mapM read = some as := by
  induction as generalizing items with
  | nil =>
    cases hitems
    rfl
  | cons a as ih =>
    rw [List.map_cons] at hitems
    obtain ⟨item, items', hitem, hrest, rfl⟩ := List.forall₂_cons_left_iff.1 hitems
    rw [List.mapM_cons, h a List.mem_cons_self item hitem,
      ih (fun a ha => h a (List.mem_cons_of_mem _ ha)) hrest]
    rfl

end Reads

end OrderDesk.Json
