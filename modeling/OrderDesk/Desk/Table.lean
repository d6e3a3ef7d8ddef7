/-!
# Tables

A table holds one value for each of its keys.

## Main definitions

* `OrderDesk.Table`: rows of a key and a value, no key twice.
* `OrderDesk.Table.get?`, `OrderDesk.Table.put`: one lemma for each pair of operations.
-/

set_option autoImplicit false

namespace OrderDesk

/-- Rows of a key and a value; no two rows have the same key. -/
structure Table (κ ν : Type) where
  rows : List (κ × ν)
  nodup_keys : (rows.map Prod.fst).Nodup

namespace Table

variable {κ ν : Type} [DecidableEq κ]

/-- The table without rows. -/
def empty : Table κ ν :=
  ⟨[], by simp⟩

instance : Inhabited (Table κ ν) :=
  ⟨empty⟩

/-- The value of the first row with a key. -/
def find? (key : κ) : List (κ × ν) → Option ν
  | [] => none
  | (k, v) :: rows => if k = key then some v else find? key rows

/-- The rows with the value of a key set: in its row, or in a new last row. -/
def set (key : κ) (value : ν) : List (κ × ν) → List (κ × ν)
  | [] => [(key, value)]
  | (k, v) :: rows => if k = key then (key, value) :: rows else (k, v) :: set key value rows

/-- Setting a value adds no key but its own. -/
theorem mem_keys_set {key k : κ} {value : ν} {rows : List (κ × ν)} :
    k ∈ (set key value rows).map Prod.fst ↔ k = key ∨ k ∈ rows.map Prod.fst := by
  induction rows with
  | nil => simp [set]
  | cons row rows ih =>
    obtain ⟨k₀, v₀⟩ := row
    unfold set
    by_cases h : k₀ = key
    · subst h; simp
    · simp only [h, if_false, List.map_cons, List.mem_cons, ih]
      grind

/-- Setting a value leaves every key in one row. -/
theorem nodup_keys_set {key : κ} {value : ν} {rows : List (κ × ν)}
    (h : (rows.map Prod.fst).Nodup) : ((set key value rows).map Prod.fst).Nodup := by
  induction rows with
  | nil => simp [set]
  | cons row rows ih =>
    obtain ⟨k₀, v₀⟩ := row
    simp only [List.map_cons, List.nodup_cons] at h
    unfold set
    by_cases hk : k₀ = key
    · subst hk
      simpa using h
    · simp only [hk, if_false, List.map_cons, List.nodup_cons]
      refine ⟨fun hm => ?_, ih h.2⟩
      rcases mem_keys_set.1 hm with rfl | hm
      · exact hk rfl
      · exact h.1 hm

/-- The value of a key. -/
def get? (t : Table κ ν) (key : κ) : Option ν :=
  find? key t.rows

/-- The table with the value of a key set. -/
def put (t : Table κ ν) (key : κ) (value : ν) : Table κ ν :=
  ⟨set key value t.rows, nodup_keys_set t.nodup_keys⟩

/-- The key has a value. -/
def contains (t : Table κ ν) (key : κ) : Bool :=
  (t.get? key).isSome

/-- All values, in the order in which their keys were first set. -/
def values (t : Table κ ν) : List ν :=
  t.rows.map Prod.snd

/-- The number of keys. -/
def size (t : Table κ ν) : Nat :=
  t.rows.length

/-- A value that has been set is found, and no other value changes. -/
@[simp]
theorem get?_put (t : Table κ ν) (key k : κ) (value : ν) :
    (t.put key value).get? k = if key = k then some value else t.get? k := by
  simp only [get?, put]
  induction t.rows with
  | nil => simp [set, find?]
  | cons row rows ih =>
    obtain ⟨k₀, v₀⟩ := row
    unfold set
    by_cases h : k₀ = key
    · subst h
      by_cases hk : k₀ = k <;> simp [find?, hk]
    · simp only [h, if_false, find?, ih]
      grind

end Table

end OrderDesk
