/-
**The optimistic lock of `tenant.Update` and `user.Update`.**

Both DAOs write `gmt_modified` and `resource_version = resourceVersion + 1` into the caller's
map, then update the row `WHERE id = ? and resource_version = ?` with the version the caller
read; when the database fails the statement (gorm's `f.Error`, the call's `dbError`) they
return that error and commit nothing, and when no row was affected they fail, with
`ErrRecordNotFound` for a tenant and `ErrRecordNotUpdate` for a user. `optimisticUpdate` is
that shared body, and `Tenant.update` and `User.update` are it at their two errors.

Clients read a row and later call `Update` with the version they read; the database runs the
statements one at a time, in some order. A run is such an order of calls (`UpdateCall`), each
one committing or failing.

* `optimisticUpdate_ok_iff` — a call commits exactly when the row still holds the version
  passed;
* `optimisticUpdate_row` — a commit sets the version to the one passed plus one and
  `gmt_modified` to the call's time, writes the caller's own columns, and no other row;
* `version_after_run` — along a run whose version stays below the `int64` maximum, the row's
  version is the one at the start plus the number of commits to the row;
* `commitsWith_le_one` — of the calls that pass one version, at most one commits;
* `update_after_run_ok_iff` — a client's update after a run commits exactly when nothing
  committed to the row since it read it.
-/

import Pixiu.Db.Table

namespace Pixiu.Db

/-- The columns of `model.Tenant` and `model.User`, which the source does not declare: what
`Updates` last wrote under each name. -/
def Columns := String → Option Value

/-- `Updates` writes one column of such a model. -/
def Columns.set (columns : Columns) (key : String) (value : Value) : Columns :=
  fun k => if k = key then some value else columns k

/-- The column names `Updates` writes into `pixiu.Model`. -/
def pixiuColumns : List String := ["resource_version", "gmt_modified", "gmt_create"]

/-- The map `Update` sends: the caller's, after `updates["gmt_modified"] = time.Now()` and
`updates["resource_version"] = resourceVersion + 1`. -/
def stamp (updates : Updates) (resourceVersion : BitVec 64) (now : Nat) : Updates :=
  (updates.set "gmt_modified" (.time now)).set "resource_version" (.int (resourceVersion + 1))

/-- The version the row `id` holds. -/
def versionAt {C : Type} (t : Table (Row C)) (id : Int) : Option (BitVec 64) :=
  (t.first id).map (·.pixiu.resourceVersion)

theorem Updates.get_filter_ne (updates : Updates) {key k : String} (other : k ≠ key) :
    Updates.get (updates.filter (·.1 != key)) k = updates.get k := by
  induction updates with
  | nil => rfl
  | cons entry rest ih =>
    obtain ⟨k', v'⟩ := entry
    by_cases same : k' = key
    · subst same
      have : (k == k') = false := beq_false_of_ne other
      simp only [Updates.get] at ih ⊢
      simp [List.filter, List.lookup_cons, ih, this]
    · have keep : (k' != key) = true := bne_iff_ne.mpr same
      simp only [Updates.get] at ih ⊢
      simp only [List.filter, keep, List.lookup_cons, ih]

theorem Updates.get_set_ne (updates : Updates) {key k : String} (value : Value)
    (other : k ≠ key) : (updates.set key value).get k = updates.get k := by
  have : (k == key) = false := beq_false_of_ne other
  simp only [Updates.set, Updates.get, List.lookup_cons, this]
  exact updates.get_filter_ne other

section OptimisticUpdate

variable {C : Type} (setColumn : C → String → Value → C) (notUpdated : Error)

/-- The body shared by `tenant.Update` and `user.Update`: update the row `WHERE id = ? and
resource_version = ?` with the stamped map; fail with the statement's own error `f.Error` when
the database failed it (`dbError`), and with `notUpdated` when no row was affected. -/
def optimisticUpdate (dbError : Option Error) (t : Table (Row C)) (id : Int)
    (resourceVersion : BitVec 64) (updates : Updates) (now : Nat) : Except Error (Table (Row C)) :=
  match dbError with
  | some e => .error e
  | none =>
    let (t', rowsAffected) :=
      t.updatesWhere setColumn id resourceVersion (stamp updates resourceVersion now)
    if rowsAffected = 0 then .error notUpdated else .ok t'

/-- `Update` with no outside failure, read off: it commits exactly when the row holds the
version passed, writing the stamped map into that row. -/
theorem optimisticUpdate_eq (t : Table (Row C)) (id : Int) (rv : BitVec 64) (updates : Updates)
    (now : Nat) :
    optimisticUpdate setColumn notUpdated none t id rv updates now =
      match t.first id with
      | some row =>
        if row.pixiu.resourceVersion = rv then
          .ok (t.put id (row.applyUpdates setColumn (stamp updates rv now)))
        else .error notUpdated
      | none => .error notUpdated := by
  unfold optimisticUpdate Table.updatesWhere
  rcases t.first id with _ | row
  · rfl
  · by_cases same : row.pixiu.resourceVersion = rv <;> simp [same]

/-- **A call with no outside failure commits exactly when the row still holds the version
passed.** -/
theorem optimisticUpdate_ok_iff {t : Table (Row C)} {id : Int} {rv : BitVec 64}
    {updates : Updates} {now : Nat} :
    (∃ t', optimisticUpdate setColumn notUpdated none t id rv updates now = .ok t') ↔
      versionAt t id = some rv := by
  rw [optimisticUpdate_eq, versionAt]
  rcases t.first id with _ | row
  · simp
  · by_cases same : row.pixiu.resourceVersion = rv <;> simp [same]

/-- A commit had no outside failure, and wrote the stamped map into the row that held the
version, and nothing else. -/
theorem optimisticUpdate_ok {dbError : Option Error} {t t' : Table (Row C)} {id : Int}
    {rv : BitVec 64} {updates : Updates} {now : Nat}
    (ok : optimisticUpdate setColumn notUpdated dbError t id rv updates now = .ok t') :
    dbError = none ∧ ∃ row, t.first id = some row ∧ row.pixiu.resourceVersion = rv ∧
      t' = t.put id (row.applyUpdates setColumn (stamp updates rv now)) := by
  rcases dbError with _ | e
  swap
  · cases ok
  refine ⟨rfl, ?_⟩
  rw [optimisticUpdate_eq] at ok
  rcases found : t.first id with _ | row <;> rw [found] at ok
  · cases ok
  · by_cases same : row.pixiu.resourceVersion = rv <;> simp only [same, if_true, if_false] at ok
    · cases ok; exact ⟨row, rfl, same, rfl⟩
    · cases ok

/-- The stamped map is written last for the version: the one passed plus one, whatever the
caller's map held. -/
@[simp] theorem applyUpdates_stamp_version (row : Row C) (updates : Updates) (rv : BitVec 64)
    (now : Nat) : (row.applyUpdates setColumn (stamp updates rv now)).pixiu.resourceVersion =
      rv + 1 := rfl

/-- `gmt_modified` becomes the call's time, whatever the caller's map held. -/
@[simp] theorem applyUpdates_stamp_gmtModified (row : Row C) (updates : Updates)
    (rv : BitVec 64) (now : Nat) :
    (row.applyUpdates setColumn (stamp updates rv now)).pixiu.gmtModified = now := rfl

end OptimisticUpdate

/-- A column of a model's own is written by the entry of its name, and by no other. -/
theorem Row.assign_columns (row : Row Columns) (key : String) (value : Value) {k : String}
    (notPixiu : k ∉ pixiuColumns) :
    (row.assign Columns.set key value).columns k =
      if k = key then some value else row.columns k := by
  unfold Row.assign
  split <;> simp_all [pixiuColumns, Columns.set]

/-- `Updates` gives a column of a model's own the map's value for it, or leaves it. -/
theorem Row.applyUpdates_columns (row : Row Columns) (updates : Updates) {k : String}
    (notPixiu : k ∉ pixiuColumns) :
    (row.applyUpdates Columns.set updates).columns k = (updates.get k <|> row.columns k) := by
  induction updates with
  | nil => rfl
  | cons entry rest ih =>
    obtain ⟨key, value⟩ := entry
    have step : (row.applyUpdates Columns.set ((key, value) :: rest)) =
        (row.applyUpdates Columns.set rest).assign Columns.set key value := rfl
    rw [step, Row.assign_columns _ _ _ notPixiu, ih]
    by_cases same : k = key
    · simp [Updates.get, List.lookup_cons, same]
    · have : (k == key) = false := beq_false_of_ne same
      simp [Updates.get, List.lookup_cons, same, this]

/-- The stamp leaves the caller's other columns as the caller gave them. -/
theorem stamp_get {updates : Updates} {rv : BitVec 64} {now : Nat} {k : String}
    (notPixiu : k ∉ pixiuColumns) : (stamp updates rv now).get k = updates.get k := by
  simp only [pixiuColumns, List.mem_cons, not_or] at notPixiu
  rw [stamp, Updates.get_set_ne _ _ notPixiu.1, Updates.get_set_ne _ _ notPixiu.2.1]

/-- **A commit writes exactly the stamped map.** The row held the version passed; now its
version is that plus one and `gmt_modified` the call's time, whatever the caller's map said of
them; each other column the caller named has the caller's value and the rest keep theirs; and
every other row is as it was. -/
theorem optimisticUpdate_row {notUpdated : Error} {dbError : Option Error}
    {t t' : Table (Row Columns)} {id : Int} {rv : BitVec 64} {updates : Updates} {now : Nat}
    (ok : optimisticUpdate Columns.set notUpdated dbError t id rv updates now = .ok t') :
    ∃ row row', t.first id = some row ∧ t'.first id = some row' ∧
      row.pixiu.resourceVersion = rv ∧ row'.pixiu.resourceVersion = rv + 1 ∧
      row'.pixiu.gmtModified = now ∧
      (∀ k ∉ pixiuColumns, row'.columns k = (updates.get k <|> row.columns k)) ∧
      ∀ other, other ≠ id → t'.first other = t.first other := by
  obtain ⟨-, row, found, version, rfl⟩ := optimisticUpdate_ok Columns.set notUpdated ok
  refine ⟨row, row.applyUpdates Columns.set (stamp updates rv now), found,
    by simp [Table.first_put, found], version, by simp, by simp, fun k notPixiu => ?_,
    fun other different => by simp [Table.first_put, different]⟩
  rw [Row.applyUpdates_columns _ _ notPixiu, stamp_get notPixiu]

/-! ## Runs of calls -/

/-- A call `Update(id, resourceVersion, updates)` at time `now`, `resourceVersion` being the
version its client read, and `dbError` the database's failure of its statement, if any. -/
structure UpdateCall where
  id : Int
  resourceVersion : BitVec 64
  updates : Updates
  now : Nat
  dbError : Option Error

/-- The call commits to row `id` of `t`: it has no outside failure, it is for that row, and the
row holds the version it passes. -/
def UpdateCall.Commits {C : Type} (call : UpdateCall) (t : Table (Row C)) (id : Int) : Prop :=
  call.dbError = none ∧ call.id = id ∧ versionAt t id = some call.resourceVersion

instance {C : Type} (call : UpdateCall) (t : Table (Row C)) (id : Int) :
    Decidable (call.Commits t id) :=
  inferInstanceAs (Decidable (_ ∧ _ ∧ _))

section Runs

variable {C : Type} (setColumn : C → String → Value → C) (notUpdated : Error)

/-- The table after one call: what it committed, or the table as it was. -/
def UpdateCall.apply (call : UpdateCall) (t : Table (Row C)) : Table (Row C) :=
  match optimisticUpdate setColumn notUpdated call.dbError t call.id call.resourceVersion
      call.updates call.now with
  | .ok t' => t'
  | .error _ => t

/-- The table after the calls of a run, in the order the database ran them. -/
def runCalls : Table (Row C) → List UpdateCall → Table (Row C)
  | t, [] => t
  | t, call :: rest => runCalls (call.apply setColumn notUpdated t) rest

/-- How many calls of a run committed to row `id`. -/
def commits (id : Int) : Table (Row C) → List UpdateCall → Nat
  | _, [] => 0
  | t, call :: rest =>
    (if call.Commits t id then 1 else 0) + commits id (call.apply setColumn notUpdated t) rest

/-- How many calls of a run that passed version `v` for row `id` committed. -/
def commitsWith (id : Int) (v : BitVec 64) : Table (Row C) → List UpdateCall → Nat
  | _, [] => 0
  | t, call :: rest =>
    (if call.Commits t id ∧ call.resourceVersion = v then 1 else 0) +
      commitsWith id v (call.apply setColumn notUpdated t) rest

/-- The row's version is below the `int64` maximum. -/
def BelowMax (t : Table (Row C)) (id : Int) : Prop :=
  ∀ v, versionAt t id = some v → v.toInt < maxInt64

theorem BelowMax.of_versionAt {t : Table (Row C)} {id : Int} {v : BitVec 64}
    (found : versionAt t id = some v) (small : v.toInt < maxInt64) : BelowMax t id := by
  intro w atW
  rw [found] at atW
  cases atW
  exact small

/-- Along the run, the row's version stays below the `int64` maximum. -/
def StaysBelow (id : Int) : Table (Row C) → List UpdateCall → Prop
  | t, [] => BelowMax t id
  | t, call :: rest => BelowMax t id ∧ StaysBelow id (call.apply setColumn notUpdated t) rest

theorem StaysBelow.now {id : Int} {t : Table (Row C)} {calls : List UpdateCall}
    (below : StaysBelow setColumn notUpdated id t calls) : BelowMax t id := by
  cases calls
  · exact below
  · exact below.1

/-- **One call, as seen from row `id`**: a commit to it moves its version one up, anything else
leaves it. -/
theorem versionAt_apply (call : UpdateCall) (t : Table (Row C)) (id : Int) :
    versionAt (call.apply setColumn notUpdated t) id =
      if call.Commits t id then some (call.resourceVersion + 1) else versionAt t id := by
  unfold UpdateCall.apply
  rcases result : optimisticUpdate setColumn notUpdated call.dbError t call.id
    call.resourceVersion call.updates call.now with e | t'
  · have failed : ¬call.Commits t id := fun ⟨noFault, same, atVersion⟩ => by
      obtain ⟨_, ok⟩ := (optimisticUpdate_ok_iff setColumn notUpdated).mpr (same ▸ atVersion)
      rw [← noFault, result] at ok
      cases ok
    simp only [if_neg failed]
  · obtain ⟨noFault, row, found, version, rfl⟩ := optimisticUpdate_ok setColumn notUpdated result
    by_cases same : call.id = id
    · subst same
      simp [UpdateCall.Commits, versionAt, Table.first_put, found, version, noFault]
    · simp [UpdateCall.Commits, versionAt, Table.first_put, Ne.symm same, same]

/-- **Along a run below the maximum, the version counts the commits.** -/
theorem version_after_run {t : Table (Row C)} {id : Int} {v : BitVec 64}
    (calls : List UpdateCall) (found : versionAt t id = some v)
    (below : StaysBelow setColumn notUpdated id t calls) :
    ∃ w, versionAt (runCalls setColumn notUpdated t calls) id = some w ∧
      w.toInt = v.toInt + commits setColumn notUpdated id t calls := by
  induction calls generalizing t v with
  | nil => exact ⟨v, found, by simp [commits]⟩
  | cons call rest ih =>
    have next := versionAt_apply setColumn notUpdated call t id
    by_cases committed : call.Commits t id
    · rw [if_pos committed] at next
      have same : call.resourceVersion = v := Option.some.inj (committed.2.2.symm.trans found)
      obtain ⟨w, after, counted⟩ := ih (same ▸ next) below.2
      refine ⟨w, after, ?_⟩
      rw [counted, toInt_add_one_of_lt (same ▸ below.1 v found), commits, if_pos committed]
      omega
    · rw [if_neg committed] at next
      obtain ⟨w, after, counted⟩ := ih (next.trans found) below.2
      exact ⟨w, after, by rw [counted, commits, if_neg committed]; omega⟩

/-- Once the version has passed `v`, no call passing `v` commits. -/
theorem commitsWith_eq_zero {t : Table (Row C)} {id : Int} {v w : BitVec 64}
    (calls : List UpdateCall) (found : versionAt t id = some w) (newer : v.toInt < w.toInt)
    (below : StaysBelow setColumn notUpdated id t calls) :
    commitsWith setColumn notUpdated id v t calls = 0 := by
  induction calls generalizing t w with
  | nil => rfl
  | cons call rest ih =>
    have notCounted : ¬(call.Commits t id ∧ call.resourceVersion = v) :=
      fun ⟨⟨_, _, atV⟩, sameVersion⟩ => by
        rw [found, sameVersion] at atV
        cases atV
        omega
    obtain ⟨w', found', newer'⟩ : ∃ w', versionAt (call.apply setColumn notUpdated t) id =
        some w' ∧ v.toInt < w'.toInt := by
      rw [versionAt_apply]
      split
      · next committed =>
        have same : call.resourceVersion = w := Option.some.inj (committed.2.2.symm.trans found)
        refine ⟨_, rfl, ?_⟩
        rw [same, toInt_add_one_of_lt (below.now setColumn notUpdated w found)]
        omega
      · exact ⟨w, found, newer⟩
    rw [commitsWith, if_neg notCounted, ih found' newer' below.2]

/-- **Of the calls that pass one version, at most one commits.** -/
theorem commitsWith_le_one (t : Table (Row C)) (id : Int) (v : BitVec 64)
    (calls : List UpdateCall) (below : StaysBelow setColumn notUpdated id t calls) :
    commitsWith setColumn notUpdated id v t calls ≤ 1 := by
  induction calls generalizing t with
  | nil => simp [commitsWith]
  | cons call rest ih =>
    rw [commitsWith]
    split
    · next counted =>
      obtain ⟨committed, sameVersion⟩ := counted
      have atV : versionAt t id = some v := sameVersion ▸ committed.2.2
      have next := versionAt_apply setColumn notUpdated call t id
      rw [if_pos committed, sameVersion] at next
      have newer : v.toInt < (v + 1).toInt := by
        rw [toInt_add_one_of_lt (below.1 v atV)]; omega
      rw [commitsWith_eq_zero setColumn notUpdated rest next newer below.2]
    · exact (Nat.zero_add _).trans_le (ih _ below.2)

/-- **No lost update.** A client that read version `v` of row `id` commits its update after a
run, when the database does not fail it, exactly when nothing committed to the row during the
run. -/
theorem update_after_run_ok_iff {t : Table (Row C)} {id : Int} {v : BitVec 64}
    (calls : List UpdateCall) (found : versionAt t id = some v)
    (below : StaysBelow setColumn notUpdated id t calls) (updates : Updates) (now : Nat) :
    (∃ t', optimisticUpdate setColumn notUpdated none (runCalls setColumn notUpdated t calls) id
        v updates now = .ok t') ↔ commits setColumn notUpdated id t calls = 0 := by
  obtain ⟨w, after, counted⟩ := version_after_run setColumn notUpdated calls found below
  rw [optimisticUpdate_ok_iff, after, Option.some.injEq, ← BitVec.toInt_inj, counted]
  omega

end Runs

/-! ## The two DAOs -/

/-- `tenant.Update`, `dbError` being the database's failure of its statement, if any. -/
def Tenant.update : Option Error → Table (Row Columns) → Int → BitVec 64 → Updates → Nat →
    Except Error (Table (Row Columns)) :=
  optimisticUpdate Columns.set .recordNotFound

/-- `tenant.Get`: the row, or `nil` with no error when there is none. -/
def Tenant.get (t : Table (Row Columns)) (id : Int) : Option (Row Columns) := t.first id

/-- `user.Update`, `dbError` being the database's failure of its statement, if any. -/
def User.update : Option Error → Table (Row Columns) → Int → BitVec 64 → Updates → Nat →
    Except Error (Table (Row Columns)) :=
  optimisticUpdate Columns.set .recordNotUpdate

/-- `user.Get`: the row, or gorm's record-not-found error. -/
def User.get (t : Table (Row Columns)) (id : Int) : Except Error (Row Columns) :=
  match t.first id with
  | some row => .ok row
  | none => .error .recordNotFound

/-- **The optimistic lock of `tenant.Update` and `user.Update`**, `notUpdated` being their
`ErrRecordNotFound` or `ErrRecordNotUpdate`. A call the database does not fail commits exactly
when the row still holds the version passed; a commit sets the version to that plus one and
`gmt_modified` to the call's time, writes the caller's other columns, and no other row. Along
any run that keeps the version below the `int64` maximum, whichever of its calls the database
fails, of the calls that pass one version at most one commits, and a client's update after the
run, unless the database fails it, commits exactly when nothing committed to the row since it
read it. -/
theorem optimisticUpdate_no_lost_update (notUpdated : Error) :
    (∀ (t : Table (Row Columns)) id rv updates now,
      (∃ t', optimisticUpdate Columns.set notUpdated none t id rv updates now = .ok t') ↔
        versionAt t id = some rv) ∧
    (∀ dbError (t t' : Table (Row Columns)) id rv updates now,
      optimisticUpdate Columns.set notUpdated dbError t id rv updates now = .ok t' →
      ∃ row row', t.first id = some row ∧ t'.first id = some row' ∧
        row.pixiu.resourceVersion = rv ∧ row'.pixiu.resourceVersion = rv + 1 ∧
        row'.pixiu.gmtModified = now ∧
        (∀ k ∉ pixiuColumns, row'.columns k = (updates.get k <|> row.columns k)) ∧
        ∀ other, other ≠ id → t'.first other = t.first other) ∧
    (∀ (t : Table (Row Columns)) id v calls, StaysBelow Columns.set notUpdated id t calls →
      commitsWith Columns.set notUpdated id v t calls ≤ 1) ∧
    (∀ (t : Table (Row Columns)) id v calls updates now, versionAt t id = some v →
      StaysBelow Columns.set notUpdated id t calls →
      ((∃ t', optimisticUpdate Columns.set notUpdated none
          (runCalls Columns.set notUpdated t calls) id v updates now = .ok t') ↔
        commits Columns.set notUpdated id t calls = 0)) :=
  ⟨fun _ _ _ _ _ => optimisticUpdate_ok_iff _ _, fun _ _ _ _ _ _ _ => optimisticUpdate_row,
    fun t id v calls => commitsWith_le_one _ _ t id v calls,
    fun _ _ _ calls updates now found below =>
      update_after_run_ok_iff _ _ calls found below updates now⟩

/-- **`tenant.Update` reports a stale version as a missing row.** For a row that holds another
version than the one passed, `user.Update` fails with `ErrRecordNotUpdate`, while
`tenant.Update` fails with `ErrRecordNotFound` although `tenant.Get` still finds the row. -/
theorem tenant_update_stale_not_found {t : Table (Row Columns)} {id : Int} {row : Row Columns}
    {rv : BitVec 64} (found : t.first id = some row) (stale : row.pixiu.resourceVersion ≠ rv)
    (updates : Updates) (now : Nat) :
    Tenant.update none t id rv updates now = .error .recordNotFound ∧ Tenant.get t id = some row ∧
      User.update none t id rv updates now = .error .recordNotUpdate := by
  have failed : ∀ notUpdated, optimisticUpdate Columns.set notUpdated none t id rv updates now =
      .error notUpdated := fun _ => by rw [optimisticUpdate_eq, found]; exact if_neg stale
  exact ⟨failed _, found, failed _⟩

end Pixiu.Db
