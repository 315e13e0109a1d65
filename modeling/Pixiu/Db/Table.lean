/-
**The database under the DAOs: gorm on a table of `pixiu.Model` rows.**

Every model embeds `pixiu.Model`: the key `id`, `gmt_create`, `gmt_modified` and
`resource_version`, a Go `int64`. A table is its rows by key, with the auto-increment counter
every insert draws a fresh key from; `fresh` keeps the counter above every key in use, so an
insert never lands on a row.

The statements the DAOs send, one definition each:

* `Table.first` — `Where("id = ?").First(&obj)`;
* `Table.firstWhere` — `Where(...).First(&obj)` on another column: the row of least key;
* `Table.create` — `Create(obj)`: a fresh key, the row stored under it;
* `Table.updatesWhere` — `Where("id = ? and resource_version = ?").Updates(map)`, with the
  number of rows it affected;
* `Table.delete` — `Where("id = ?").Delete(...)`;
* `Table.find` — `Where(...).Find(&objs)`.

An `Updates` map writes the `pixiu.Model` columns by their column names and hands every other
key to the model's own `setColumn`; when a key is given twice the first one wins, as a Go map holds
each key once (`Updates.set` puts the new key in front and drops the old one).
-/

import Pixiu.Basic
import Mathlib.Data.List.AList

namespace Pixiu.Db

/-- The columns `pixiu.Model` adds to every row, but the key. `resource_version` is a Go
`int64`, kept as its 64 bits. -/
structure PixiuModel where
  gmtCreate : Nat
  gmtModified : Nat
  resourceVersion : BitVec 64
deriving DecidableEq, Repr

/-- `math.MaxInt64`. -/
def maxInt64 : Int := 9223372036854775807

/-- Below the `int64` maximum, `resourceVersion + 1` does not wrap. -/
theorem toInt_add_one_of_lt {v : BitVec 64} (below : v.toInt < maxInt64) :
    (v + 1).toInt = v.toInt + 1 := by
  unfold maxInt64 at below
  rw [BitVec.toInt_eq_toNat_cond, BitVec.toInt_eq_toNat_cond] at *
  have := v.isLt
  have one : (1 : BitVec 64).toNat = 1 := rfl
  simp only [BitVec.toNat_add, one] at *
  split at below <;> split <;> omega

/-- A value of an `Updates` map (`interface{}`): an `int64`, a string or a time. -/
inductive Value where
  | int (value : BitVec 64)
  | str (value : String)
  | time (value : Nat)
deriving DecidableEq, Repr

/-- The `map[string]interface{}` handed to `Updates`. -/
def Updates := List (String × Value)

/-- `updates[key] = value`. -/
def Updates.set (updates : Updates) (key : String) (value : Value) : Updates :=
  (key, value) :: updates.filter (·.1 != key)

/-- `updates[key]`. -/
def Updates.get (updates : Updates) (key : String) : Option Value := List.lookup key updates

/-- A row: the `pixiu.Model` columns and the model's own columns `C`. -/
structure Row (C : Type) where
  pixiu : PixiuModel
  columns : C

section Row

variable {C : Type} (setColumn : C → String → Value → C)

/-- How `Updates` writes one column: the `pixiu.Model` columns by name, the others by the
model's `setColumn`. -/
def Row.assign (row : Row C) : String → Value → Row C
  | "resource_version", .int v => { row with pixiu := { row.pixiu with resourceVersion := v } }
  | "gmt_modified", .time t => { row with pixiu := { row.pixiu with gmtModified := t } }
  | "gmt_create", .time t => { row with pixiu := { row.pixiu with gmtCreate := t } }
  | key, value => { row with columns := setColumn row.columns key value }

/-- `Updates(map)` on one row; the first entry of a key is the one that stays. -/
def Row.applyUpdates (row : Row C) (updates : Updates) : Row C :=
  updates.foldr (fun entry row => row.assign setColumn entry.1 entry.2) row

/-- Writing `resource_version` sets the version. -/
@[simp] theorem Row.assign_version (row : Row C) (v : BitVec 64) :
    (row.assign setColumn "resource_version" (.int v)).pixiu.resourceVersion = v := rfl

end Row

/-- A table of rows `R`: the rows by key, and the auto-increment counter, above every key. -/
structure Table (R : Type) where
  rows : AList (fun _ : Int => R)
  autoIncrement : Int
  fresh : ∀ id ∈ rows.keys, id < autoIncrement

namespace Table

variable {R : Type}

/-- The table with no rows, whose first key is `1`. -/
def empty : Table R := ⟨∅, 1, by simp⟩

/-- `Where("id = ?").First(&obj)`. -/
def first (t : Table R) (id : Int) : Option R := t.rows.lookup id

theorem create_fresh (t : Table R) (row : R) :
    ∀ id ∈ (t.rows.insert t.autoIncrement row).keys, id < t.autoIncrement + 1 := by
  intro id mem
  rcases (AList.mem_insert _).mp (AList.mem_keys.mpr mem) with rfl | old
  · omega
  · have := t.fresh id (AList.mem_keys.mp old); omega

/-- `Create(obj)`: the row under a fresh key, which it returns. -/
def create (t : Table R) (row : R) : Int × Table R :=
  (t.autoIncrement, ⟨t.rows.insert t.autoIncrement row, t.autoIncrement + 1, create_fresh t row⟩)

theorem put_fresh (t : Table R) {id : Int} (present : id ∈ t.rows) (row : R) :
    ∀ k ∈ (t.rows.insert id row).keys, k < t.autoIncrement := by
  intro k mem
  rcases (AList.mem_insert _).mp (AList.mem_keys.mpr mem) with rfl | old
  · exact t.fresh k (AList.mem_keys.mp present)
  · exact t.fresh k (AList.mem_keys.mp old)

/-- The row under an existing key replaced; a missing key leaves the table alone. -/
def put (t : Table R) (id : Int) (row : R) : Table R :=
  if present : id ∈ t.rows then ⟨t.rows.insert id row, t.autoIncrement, put_fresh t present row⟩
  else t

/-- `Where("id = ?").Delete(...)`. -/
def delete (t : Table R) (id : Int) : Table R :=
  ⟨t.rows.erase id, t.autoIncrement, fun k mem =>
    t.fresh k (List.mem_of_mem_erase (by simpa [AList.keys_erase] using mem))⟩

/-- `Where(...).Delete(...)`: every row that satisfies `p` deleted. -/
def deleteWhere (t : Table R) (p : R → Bool) : Table R :=
  ⟨⟨t.rows.entries.filter (fun entry => !p entry.2),
      t.rows.nodupKeys.sublist (List.filter_sublist _)⟩, t.autoIncrement,
    fun k mem => t.fresh k ((List.filter_sublist _).map Sigma.fst |>.subset mem)⟩

/-- `Where(...).Find(&objs)`: the rows that satisfy `p`, with their keys. -/
def find (t : Table R) (p : R → Bool) : List (Int × R) :=
  (t.rows.entries.filter fun entry => p entry.2).map fun entry => (entry.1, entry.2)

/-- The entry of least key of a list of keyed rows. -/
def leastKey : List (Int × R) → Option (Int × R)
  | [] => none
  | e :: rest =>
    match leastKey rest with
    | some best => if best.1 < e.1 then some best else some e
    | none => some e

/-- `Where(...).First(&obj)`: of the rows that satisfy `p`, the one of least key. -/
def firstWhere (t : Table R) (p : R → Bool) : Option (Int × R) := leastKey (t.find p)

theorem leastKey_eq_none {entries : List (Int × R)} : leastKey entries = none ↔ entries = [] := by
  cases entries with
  | nil => exact iff_of_true rfl rfl
  | cons e rest =>
    simp only [leastKey, reduceCtorEq, iff_false]
    split
    · split <;> simp
    · simp

@[simp] theorem first_empty (id : Int) : (empty : Table R).first id = none := rfl

@[simp] theorem first_create_self (t : Table R) (row : R) :
    (t.create row).2.first (t.create row).1 = some row := AList.lookup_insert _

theorem first_create_of_ne (t : Table R) (row : R) {id : Int} (other : id ≠ (t.create row).1) :
    (t.create row).2.first id = t.first id := AList.lookup_insert_ne other

theorem first_create (t : Table R) (row : R) (id : Int) :
    (t.create row).2.first id = if id = t.autoIncrement then some row else t.first id := by
  split
  · next same => subst same; exact first_create_self t row
  · next other => exact first_create_of_ne t row other

/-- The key `Create` draws is not in use. -/
theorem first_create_key (t : Table R) (row : R) : t.first (t.create row).1 = none := by
  refine AList.lookup_eq_none.mpr fun mem => ?_
  have := t.fresh _ (AList.mem_keys.mp mem)
  simp [create] at this

theorem first_put (t : Table R) (id k : Int) (row : R) :
    (t.put id row).first k =
      if k = id ∧ (t.first id).isSome then some row else t.first k := by
  unfold put first
  by_cases present : id ∈ t.rows
  · have isSome : (t.rows.lookup id).isSome := AList.lookup_isSome.mpr present
    by_cases same : k = id
    · subst same; simp [present, isSome]
    · simp [present, same, AList.lookup_insert_ne same]
  · have isNone : t.rows.lookup id = none := AList.lookup_eq_none.mpr present
    simp [present, isNone]

theorem first_delete (t : Table R) (id k : Int) :
    (t.delete id).first k = if k = id then none else t.first k := by
  unfold delete first
  split
  · subst_vars; exact AList.lookup_erase _ _
  · exact AList.lookup_erase_ne ‹_›

theorem mem_find {t : Table R} {p : R → Bool} {id : Int} {row : R} :
    (id, row) ∈ t.find p ↔ t.first id = some row ∧ p row = true := by
  simp only [find, first, List.mem_map, List.mem_filter]
  constructor
  · rintro ⟨⟨k, r⟩, ⟨mem, sat⟩, same⟩
    cases same
    exact ⟨AList.mem_lookup_iff.mpr mem, sat⟩
  · rintro ⟨found, sat⟩
    exact ⟨⟨id, row⟩, ⟨AList.mem_lookup_iff.mp found, sat⟩, rfl⟩

/-- `Find` by `p` is every row, filtered by `p`. -/
theorem filter_find_all (t : Table R) (p : R → Bool) :
    (t.find fun _ => true).filter (fun entry => p entry.2) = t.find p := by
  simp only [find, List.filter_true, List.filter_map]
  rfl

/-- After `Create`, `Find` by `p` sees the new row first, when it satisfies `p`. -/
theorem find_create (t : Table R) (row : R) (p : R → Bool) :
    (t.create row).2.find p = (if p row then [(t.autoIncrement, row)] else []) ++ t.find p := by
  have fresh : t.autoIncrement ∉ t.rows := fun mem =>
    lt_irrefl _ (t.fresh _ (AList.mem_keys.mp mem))
  simp only [create, find, AList.insert_entries_of_neg fresh]
  split <;> simp [*]

/-- After deleting the rows that satisfy `q`, `Find` by `p` sees the others. -/
theorem find_deleteWhere (t : Table R) (q p : R → Bool) :
    (t.deleteWhere q).find p = (t.find p).filter fun entry => !q entry.2 := by
  simp only [find, deleteWhere, List.filter_map, List.filter_filter]
  congr 2
  funext entry
  exact Bool.and_comm _ _

theorem mem_leastKey {entries : List (Int × R)} {e : Int × R} (least : leastKey entries = some e) :
    e ∈ entries := by
  induction entries with
  | nil => cases least
  | cons head rest ih =>
    simp only [leastKey] at least
    split at least
    · split at least <;> cases least
      · exact List.mem_cons_of_mem _ (ih ‹_›)
      · exact List.mem_cons_self _ _
    · cases least; exact List.mem_cons_self _ _

/-- `First` finds nothing exactly when no row satisfies `p`. -/
theorem firstWhere_eq_none {t : Table R} {p : R → Bool} :
    t.firstWhere p = none ↔ ∀ id row, t.first id = some row → p row = false := by
  rw [firstWhere, leastKey_eq_none, List.eq_nil_iff_forall_not_mem]
  constructor
  · intro absent id row found
    by_contra sat
    exact absent (id, row) (mem_find.mpr ⟨found, by simpa using sat⟩)
  · intro absent ⟨id, row⟩ mem
    have := mem_find.mp mem
    rw [absent id row this.1] at this
    exact Bool.false_ne_true this.2

/-- What `First` finds is a row that satisfies `p`. -/
theorem firstWhere_some {t : Table R} {p : R → Bool} {id : Int} {row : R}
    (found : t.firstWhere p = some (id, row)) : t.first id = some row ∧ p row = true :=
  mem_find.mp (mem_leastKey found)

/-- When `Create` adds the only row satisfying `p`, `First` by `p` finds it under its new key. -/
theorem firstWhere_create {t : Table R} {p : R → Bool} {row : R} (sat : p row = true)
    (absent : ∀ id old, t.first id = some old → p old = false) :
    (t.create row).2.firstWhere p = some (t.autoIncrement, row) := by
  rcases found : (t.create row).2.firstWhere p with _ | ⟨id, stored⟩
  · have unsat := firstWhere_eq_none.mp found _ _ (first_create_self t row)
    rw [sat] at unsat
    cases unsat
  · obtain ⟨present, satStored⟩ := firstWhere_some found
    rw [first_create] at present
    split at present
    · next key => cases present; rw [key]
    · rw [absent id stored present] at satStored
      cases satStored

end Table

section Updates

variable {C : Type} (setColumn : C → String → Value → C)

/-- `Where("id = ? and resource_version = ?", id, resourceVersion).Updates(updates)`: the table
after the statement, and `RowsAffected`. -/
def Table.updatesWhere (t : Table (Row C)) (id : Int) (resourceVersion : BitVec 64)
    (updates : Updates) : Table (Row C) × Nat :=
  match t.first id with
  | some row =>
    if row.pixiu.resourceVersion = resourceVersion then
      (t.put id (row.applyUpdates setColumn updates), 1)
    else (t, 0)
  | none => (t, 0)

end Updates

end Pixiu.Db
