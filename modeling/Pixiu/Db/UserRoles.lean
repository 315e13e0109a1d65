/-
**The user DAO's roles: `SetUserRoles` in one transaction, beside `GetRoleIDByUser` and
`DeleteRolesByUserID`.**

`user_role` holds one row per (user, role) pair. `SetUserRoles(uid, rids)` opens a transaction,
deletes the user's rows, creates one row per role id, and commits. Every statement that fails is
followed by `tx.Rollback()`, and its error is returned. `GetRoleIDByUser` plucks the role ids of
the user's rows and `DeleteRolesByUserID` deletes them, both outside any transaction.

The delete in the transaction is gorm's `Where(&model.UserRole{UserID: uid}).Delete(...)`: a
struct condition, from which gorm drops the zero fields, and a delete left with no condition is
refused (`ErrMissingWhereClause`). So for user `0` the transaction always rolls back, while
`DeleteRolesByUserID(0)`, whose condition is a string, deletes user `0`'s rows.

The abstract view is `Roles`, the list of role ids of each user; `rolesOf` reads it off the
table, up to the order of the rows, which SQL leaves open.

* `setUserRoles_error` — a `SetUserRoles` that fails leaves the database as it was, with its
  transaction closed;
* `setUserRoles_ok` — one that succeeds was not for user `0`, and committed the table without the
  user's old rows, with one new row per role id;
* **`userRoles_refine`** — along every run of the three calls, the table holds the abstract roles
  with each successful call applied and each failed one ignored, no transaction stays open,
  `GetRoleIDByUser` returns the abstract roles of the user, and `SetUserRoles` for user `0`
  never succeeds.
-/

import Pixiu.Db.Table

namespace Pixiu.Db

/-- `model.UserRole`, by its two columns. -/
structure UserRole where
  userId : Int
  roleId : Int
deriving DecidableEq, Repr

/-- The role ids of a user's rows, in the order `Find` gives them. -/
def rolesOf (t : Table UserRole) (uid : Int) : List Int :=
  (t.find fun row => row.userId = uid).map (·.2.roleId)

/-- The database of the user DAO: the committed `user_role` table, and the table of the open
transaction, if one is open. -/
structure RoleDb where
  committed : Table UserRole
  tx : Option (Table UserRole)

/-- The DAO's statements that can fail for a reason outside the model. -/
inductive RoleCall where
  | begin | deleteRoles | createRole (rid : Int) | commit | pluck | deleteByUser
deriving DecidableEq, Repr

namespace UserDao

variable (fault : RoleCall → Option Error)

/-! ## Part 1 — the statements and the calls -/

/-- A statement: its outside failure, or its body. -/
def statement {α : Type} (c : RoleCall) (body : Op RoleDb Error α) : Op RoleDb Error α :=
  fun db =>
    match fault c with
    | some e => (.error e, db)
    | none => body db

/-- `u.db.Begin()`, whose failure `tx.Error` holds: a transaction on the committed table. -/
def begin : Op RoleDb Error Unit :=
  statement fault .begin fun db => (.ok (), { db with tx := some db.committed })

/-- `tx.Rollback()`: the transaction's writes dropped; its own error is not read. -/
def rollback : Op RoleDb Error Unit := fun db => (.ok (), { db with tx := none })

/-- A statement of the open transaction, on its table; gorm refuses one on a finished
transaction. -/
def inTx {α : Type} (c : RoleCall) (body : Table UserRole → Except Error (α × Table UserRole)) :
    Op RoleDb Error α :=
  statement fault c fun db =>
    match db.tx with
    | none => (.error (.external "invalid transaction"), db)
    | some t =>
      match body t with
      | .ok (a, t') => (.ok a, { db with tx := some t' })
      | .error e => (.error e, db)

/-- gorm's `Where(&cond).Delete(...)`: the non-zero fields of `cond` are the conditions, and a
delete left with none is refused. -/
def deleteWhereStruct (cond : UserRole) (t : Table UserRole) :
    Except Error (Unit × Table UserRole) :=
  if cond.userId = 0 ∧ cond.roleId = 0 then .error (.external "WHERE conditions required")
  else .ok ((), t.deleteWhere fun row =>
    (cond.userId = 0 || row.userId = cond.userId) && (cond.roleId = 0 || row.roleId = cond.roleId))

/-- `if err := ...; err != nil { tx.Rollback(); return err }`. -/
def orRollback {α : Type} (x : Op RoleDb Error α) : Op RoleDb Error α := fun db =>
  match x db with
  | (.error e, db') => (.error e, (rollback db').2)
  | result => result

/-- The loop of `SetUserRoles`: one `Create` per role id, in order. -/
def createRoles (uid : Int) : List Int → Op RoleDb Error Unit
  | [] => pure ()
  | rid :: rest => do
    orRollback (inTx fault (.createRole rid) fun t => .ok ((), (t.create ⟨uid, rid⟩).2))
    createRoles uid rest

/-- `tx.Commit()`: the transaction's table becomes the committed one; a failed commit commits
nothing, and the transaction ends either way. -/
def commit : Op RoleDb Error Unit := fun db =>
  match fault .commit, db.tx with
  | some e, _ => (.error e, { db with tx := none })
  | none, some t => (.ok (), ⟨t, none⟩)
  | none, none => (.error (.external "invalid transaction"), db)

/-- `user.SetUserRoles`. -/
def setUserRoles (uid : Int) (rids : List Int) : Op RoleDb Error Unit := do
  orRollback (begin fault)
  orRollback (inTx fault .deleteRoles (deleteWhereStruct ⟨uid, 0⟩))
  if rids.length > 0 then createRoles fault uid rids
  commit fault

/-- `user.GetRoleIDByUser`: `Pluck("role_id")` of the user's rows, under the key `role_ids`. -/
def getRoleIDByUser (uid : Int) : Op RoleDb Error (List (String × List Int)) :=
  statement fault .pluck fun db => (.ok [("role_ids", rolesOf db.committed uid)], db)

/-- `user.DeleteRolesByUserID`: `Where("user_id = ?", uid).Delete(...)`, outside any
transaction. -/
def deleteRolesByUserID (uid : Int) : Op RoleDb Error Unit :=
  statement fault .deleteByUser fun db =>
    (.ok (), { db with committed := db.committed.deleteWhere fun row => row.userId = uid })

end UserDao

/-! ## Part 2 — the roles a table holds -/

/-- The table after one `Create` per role id, in order. -/
def createAll (t : Table UserRole) (uid : Int) : List Int → Table UserRole
  | [] => t
  | rid :: rest => createAll (t.create ⟨uid, rid⟩).2 uid rest

theorem rolesOf_create (t : Table UserRole) (row : UserRole) (u : Int) :
    rolesOf (t.create row).2 u = (if row.userId = u then [row.roleId] else []) ++ rolesOf t u := by
  unfold rolesOf
  rw [Table.find_create]
  by_cases same : row.userId = u <;> simp [same]

theorem rolesOf_deleteWhere (t : Table UserRole) (uid u : Int) :
    rolesOf (t.deleteWhere fun row => row.userId = uid) u =
      if u = uid then [] else rolesOf t u := by
  unfold rolesOf
  rw [Table.find_deleteWhere]
  have own : ∀ entry ∈ t.find (fun row => row.userId = u), entry.2.userId = u := fun entry mem =>
    of_decide_eq_true (Table.mem_find.mp mem).2
  split
  · next same =>
    subst same
    rw [List.filter_eq_nil_iff.mpr fun entry mem => by simp [own entry mem]]
    rfl
  · next other =>
    rw [List.filter_eq_self.mpr fun entry mem => by simp [own entry mem, other]]

theorem rolesOf_createAll (t : Table UserRole) (uid u : Int) (rids : List Int) :
    rolesOf (createAll t uid rids) u = (if uid = u then rids.reverse else []) ++ rolesOf t u := by
  induction rids generalizing t with
  | nil => simp [createAll]
  | cons rid rest ih =>
    rw [createAll, ih, rolesOf_create]
    split <;> simp [*]

namespace UserDao

variable {fault : RoleCall → Option Error}

/-! ## Part 3 — what each statement does -/

theorem statement_ok {α : Type} {c : RoleCall} {body : Op RoleDb Error α} {db db' : RoleDb}
    {a : α} (ok : statement fault c body db = (.ok a, db')) :
    fault c = none ∧ body db = (.ok a, db') := by
  unfold statement at ok
  split at ok
  · cases ok
  · exact ⟨‹_›, ok⟩

theorem statement_error {α : Type} {c : RoleCall} {body : Op RoleDb Error α} {db db' : RoleDb}
    {e : Error} (failed : statement fault c body db = (.error e, db')) :
    db' = db ∨ body db = (.error e, db') := by
  unfold statement at failed
  split at failed
  · cases failed; exact .inl rfl
  · exact .inr failed

theorem begin_ok {db db' : RoleDb} {u : Unit} (ok : begin fault db = (.ok u, db')) :
    db' = { db with tx := some db.committed } := by
  cases (statement_ok ok).2; rfl

theorem begin_error {db db' : RoleDb} {e : Error} (failed : begin fault db = (.error e, db')) :
    db' = db :=
  (statement_error failed).resolve_right fun body => by cases body

theorem inTx_ok {α : Type} {c : RoleCall}
    {body : Table UserRole → Except Error (α × Table UserRole)}
    {db db' : RoleDb} {a : α} (ok : inTx fault c body db = (.ok a, db')) :
    ∃ t t', db.tx = some t ∧ body t = .ok (a, t') ∧ db' = { db with tx := some t' } := by
  have run := (statement_ok ok).2
  split at run
  · cases run
  · next t tx =>
    split at run
    · next a' t' done => cases run; exact ⟨t, t', tx, done, rfl⟩
    · cases run

theorem inTx_error {α : Type} {c : RoleCall}
    {body : Table UserRole → Except Error (α × Table UserRole)} {db db' : RoleDb} {e : Error}
    (failed : inTx fault c body db = (.error e, db')) : db' = db := by
  rcases statement_error failed with same | run
  · exact same
  split at run
  · cases run; rfl
  · split at run <;> cases run; rfl

theorem orRollback_ok {α : Type} {x : Op RoleDb Error α} {db db' : RoleDb} {a : α} :
    orRollback x db = (.ok a, db') ↔ x db = (.ok a, db') := by
  unfold orRollback
  rcases x db with ⟨_ | _, _⟩ <;> simp

theorem orRollback_error {α : Type} {x : Op RoleDb Error α} {db db' : RoleDb} {e : Error}
    (failed : orRollback x db = (.error e, db')) :
    ∃ db₁, x db = (.error e, db₁) ∧ db' = { db₁ with tx := none } := by
  unfold orRollback at failed
  rcases run : x db with ⟨_ | _, db₁⟩ <;> rw [run] at failed <;> cases failed
  exact ⟨db₁, rfl, rfl⟩

/-- **The loop of `SetUserRoles` in an open transaction**: it creates every row, or rolls the
transaction back. -/
theorem createRoles_run {uid : Int} {c t : Table UserRole} {db' : RoleDb} {r : Except Error Unit} :
    ∀ rids, createRoles fault uid rids ⟨c, some t⟩ = (r, db') →
      r = .ok () ∧ db' = ⟨c, some (createAll t uid rids)⟩ ∨ r.isOk = false ∧ db' = ⟨c, none⟩
  | [], run => by cases run; exact .inl ⟨rfl, rfl⟩
  | rid :: rest, run => by
    rw [createRoles, Op.bind_apply] at run
    rcases created : orRollback (inTx fault (.createRole rid) fun t =>
      .ok ((), (t.create ⟨uid, rid⟩).2)) ⟨c, some t⟩ with ⟨_ | u, db₁⟩ <;> rw [created] at run
    · cases run
      obtain ⟨_, failed, rfl⟩ := orRollback_error created
      obtain rfl := inTx_error failed
      exact .inr ⟨rfl, rfl⟩
    · obtain ⟨_, _, tx, made, rfl⟩ := inTx_ok (orRollback_ok.mp created)
      cases tx; cases made
      exact createRoles_run rest run

theorem commit_run {c t : Table UserRole} {r : Except Error Unit} {db' : RoleDb}
    (run : commit fault ⟨c, some t⟩ = (r, db')) :
    r = .ok () ∧ db' = ⟨t, none⟩ ∨ r.isOk = false ∧ db' = ⟨c, none⟩ := by
  unfold commit at run
  rcases commitFault : fault .commit with _ | _ <;> rw [commitFault] at run <;> cases run
  · exact .inl ⟨rfl, rfl⟩
  · exact .inr ⟨rfl, rfl⟩

theorem deleteWhereStruct_user {uid : Int} (nonzero : uid ≠ 0) (t : Table UserRole) :
    deleteWhereStruct ⟨uid, 0⟩ t = .ok ((), t.deleteWhere fun row => row.userId = uid) := by
  simp [deleteWhereStruct, nonzero]

/-! ## Part 4 — `SetUserRoles` is all or nothing -/

/-- **A `SetUserRoles` that succeeds** was not for user `0`, and committed the table without the
user's old rows, with one new row per role id; its transaction is closed. -/
theorem setUserRoles_ok {uid : Int} {rids : List Int} {c : Table UserRole} {db' : RoleDb}
    {u : Unit} (ok : setUserRoles fault uid rids ⟨c, none⟩ = (.ok u, db')) :
    uid ≠ 0 ∧ db' = ⟨createAll (c.deleteWhere fun row => row.userId = uid) uid rids, none⟩ := by
  obtain ⟨_, db₁, begun, ok₁⟩ := Op.bind_ok.mp ok
  obtain rfl := begin_ok (orRollback_ok.mp begun)
  obtain ⟨_, db₂, deleted, ok₂⟩ := Op.bind_ok.mp ok₁
  obtain ⟨_, t', tx, cleared, rfl⟩ := inTx_ok (orRollback_ok.mp deleted)
  cases tx
  have nonzero : uid ≠ 0 := fun zero => by simp [deleteWhereStruct, zero] at cleared
  rw [deleteWhereStruct_user nonzero] at cleared
  cases cleared
  have toCommit : commit fault
      ⟨c, some (createAll (c.deleteWhere fun row => row.userId = uid) uid rids)⟩ =
        (.ok u, db') := by
    split at ok₂
    · obtain ⟨_, db₃, created, committed⟩ := Op.bind_ok.mp ok₂
      rcases createRoles_run rids created with ⟨-, rfl⟩ | ⟨bad, -⟩
      · exact committed
      · cases bad
    · next empty =>
      rw [List.eq_nil_of_length_eq_zero (Nat.eq_zero_of_not_pos empty)]
      exact ok₂
  rcases commit_run toCommit with ⟨-, done⟩ | ⟨bad, -⟩
  · exact ⟨nonzero, done⟩
  · cases bad

/-- **A `SetUserRoles` that fails leaves the database as it was**, its transaction closed:
every failing statement is followed by a rollback, and the commit is the last statement. -/
theorem setUserRoles_error {uid : Int} {rids : List Int} {c : Table UserRole} {db' : RoleDb}
    {e : Error} (failed : setUserRoles fault uid rids ⟨c, none⟩ = (.error e, db')) :
    db' = ⟨c, none⟩ := by
  rcases Op.bind_error.mp failed with failed₁ | ⟨_, db₁, begun, failed₁⟩
  · obtain ⟨db₁, beginFailed, rfl⟩ := orRollback_error failed₁
    obtain rfl := begin_error beginFailed
    rfl
  obtain rfl := begin_ok (orRollback_ok.mp begun)
  rcases Op.bind_error.mp failed₁ with failed₂ | ⟨_, db₂, deleted, failed₂⟩
  · obtain ⟨db₂, deleteFailed, rfl⟩ := orRollback_error failed₂
    obtain rfl := inTx_error deleteFailed
    rfl
  obtain ⟨_, t', tx, -, rfl⟩ := inTx_ok (orRollback_ok.mp deleted)
  cases tx
  have committing : ∀ t, commit fault ⟨c, some t⟩ = (.error e, db') → db' = ⟨c, none⟩ :=
    fun t run => by
      rcases commit_run run with ⟨bad, -⟩ | ⟨-, done⟩
      · cases bad
      · exact done
  split at failed₂
  · rcases Op.bind_error.mp failed₂ with failed₃ | ⟨_, db₃, created, failed₃⟩
    · rcases createRoles_run rids failed₃ with ⟨bad, -⟩ | ⟨-, done⟩
      · cases bad
      · exact done
    · rcases createRoles_run rids created with ⟨-, rfl⟩ | ⟨bad, -⟩
      · exact committing _ failed₃
      · cases bad
  · exact committing _ failed₂

/-- `SetUserRoles` for user `0` never succeeds: the struct condition of its delete is all zero,
which gorm refuses. -/
theorem setUserRoles_zero (rids : List Int) (c : Table UserRole) :
    (setUserRoles fault 0 rids ⟨c, none⟩).1.isOk = false := by
  rcases run : setUserRoles fault 0 rids ⟨c, none⟩ with ⟨_ | u, db'⟩
  · rfl
  · exact absurd rfl (setUserRoles_ok run).1

end UserDao

/-! ## Part 5 — the abstract roles, along every run -/

/-- The roles of every user, as the DAO means them: a user's role ids. -/
def Roles := Int → List Int

/-- The roles, with user `uid`'s replaced. -/
def Roles.set (roles : Roles) (uid : Int) (rids : List Int) : Roles :=
  fun u => if u = uid then rids else roles u

/-- A call of the user DAO on roles. -/
inductive RoleRequest where
  | setUserRoles (uid : Int) (rids : List Int)
  | deleteRolesByUserID (uid : Int)
  | getRoleIDByUser (uid : Int)

/-- The database holds the abstract roles: no transaction is open, and the rows of every user
carry that user's roles, in some order. -/
def Holds (db : RoleDb) (roles : Roles) : Prop :=
  db.tx = none ∧ ∀ u, (rolesOf db.committed u).Perm (roles u)

namespace RoleRequest

variable (fault : RoleCall → Option Error)

/-- A call on the database: whether it succeeded, and the database it leaves. -/
def run (db : RoleDb) : RoleRequest → Bool × RoleDb
  | .setUserRoles uid rids => (UserDao.setUserRoles fault uid rids db).map Except.isOk id
  | .deleteRolesByUserID uid => (UserDao.deleteRolesByUserID fault uid db).map Except.isOk id
  | .getRoleIDByUser uid => (UserDao.getRoleIDByUser fault uid db).map Except.isOk id

/-- What a call means for the roles: a `SetUserRoles` that succeeded replaces the user's roles,
a `DeleteRolesByUserID` that succeeded empties them, and nothing else changes them. -/
def effect (roles : Roles) (ok : Bool) : RoleRequest → Roles
  | .setUserRoles uid rids => if ok then roles.set uid rids else roles
  | .deleteRolesByUserID uid => if ok then roles.set uid [] else roles
  | .getRoleIDByUser _ => roles

end RoleRequest

/-- A run of calls, one after another, each meeting the outside failures given with it: the
database it leaves, and the abstract roles with each call's effect as the call turned out. -/
def runRequests : RoleDb × Roles → List ((RoleCall → Option Error) × RoleRequest) → RoleDb × Roles
  | state, [] => state
  | (db, roles), (fault, req) :: rest =>
    runRequests ((req.run fault db).2, req.effect roles (req.run fault db).1) rest

section Refinement

variable {fault : RoleCall → Option Error}

theorem holds_empty : Holds ⟨Table.empty, none⟩ fun _ => [] := ⟨rfl, fun _ => List.Perm.refl _⟩

/-- A successful `SetUserRoles` holds the roles with the user's replaced. -/
theorem holds_setUserRoles {c : Table UserRole} {roles : Roles}
    (holds : ∀ u, (rolesOf c u).Perm (roles u)) (uid : Int) (rids : List Int) :
    ∀ u, (rolesOf (createAll (c.deleteWhere fun row => row.userId = uid) uid rids) u).Perm
      (roles.set uid rids u) := by
  intro u
  rw [rolesOf_createAll, rolesOf_deleteWhere, Roles.set]
  by_cases same : u = uid
  · subst same; simp [List.reverse_perm]
  · simpa [same, Ne.symm same] using holds u

/-- A `SetUserRoles` holds the roles with the user's replaced if it succeeded, and the same roles
if it failed. -/
theorem holds_setUserRoles_run {db db' : RoleDb} {roles : Roles} (holds : Holds db roles)
    {uid : Int} {rids : List Int} {r : Except Error Unit}
    (run : UserDao.setUserRoles fault uid rids db = (r, db')) :
    Holds db' (if r.isOk then roles.set uid rids else roles) := by
  obtain ⟨c, tx⟩ := db
  obtain ⟨rfl, rows⟩ := holds
  rcases r with e | u
  · rw [UserDao.setUserRoles_error run]; exact ⟨rfl, rows⟩
  · obtain ⟨-, rfl⟩ := UserDao.setUserRoles_ok run
    exact ⟨rfl, holds_setUserRoles rows uid rids⟩

/-- A `DeleteRolesByUserID` holds the roles with the user's emptied if it succeeded, and the same
roles if it failed. -/
theorem holds_deleteRolesByUserID_run {db db' : RoleDb} {roles : Roles} (holds : Holds db roles)
    {uid : Int} {r : Except Error Unit}
    (run : UserDao.deleteRolesByUserID fault uid db = (r, db')) :
    Holds db' (if r.isOk then roles.set uid [] else roles) := by
  rcases r with e | u
  · rcases UserDao.statement_error run with rfl | body
    · exact holds
    · cases body
  · cases (UserDao.statement_ok run).2
    refine ⟨holds.1, fun u => ?_⟩
    show (rolesOf _ u).Perm (roles.set uid [] u)
    rw [rolesOf_deleteWhere, Roles.set]
    split
    · exact List.Perm.refl _
    · exact holds.2 u

/-- `GetRoleIDByUser` writes nothing. -/
theorem getRoleIDByUser_keeps (uid : Int) (db : RoleDb) :
    (UserDao.getRoleIDByUser fault uid db).2 = db := by
  unfold UserDao.getRoleIDByUser UserDao.statement
  split <;> rfl

/-- **One call keeps the database holding the abstract roles**, with the call's effect applied
exactly when it succeeded. -/
theorem holds_step {db : RoleDb} {roles : Roles} (holds : Holds db roles) :
    ∀ req : RoleRequest, Holds (req.run fault db).2 (req.effect roles (req.run fault db).1)
  | .setUserRoles _ _ => holds_setUserRoles_run holds rfl
  | .deleteRolesByUserID _ => holds_deleteRolesByUserID_run holds rfl
  | .getRoleIDByUser uid => by
    show Holds (UserDao.getRoleIDByUser fault uid db).2 roles
    rw [getRoleIDByUser_keeps]
    exact holds

/-- Along every run, whatever fails at each call, the database holds the abstract roles. -/
theorem holds_run : ∀ {db : RoleDb} {roles : Roles}, Holds db roles → ∀ reqs,
    Holds (runRequests (db, roles) reqs).1 (runRequests (db, roles) reqs).2
  | _, _, holds, [] => holds
  | _, _, holds, (fault, req) :: rest => holds_run (@holds_step fault _ _ holds req) rest

/-- What `GetRoleIDByUser` returns from a database holding the abstract roles: the user's roles,
in some order. -/
theorem getRoleIDByUser_holds {db : RoleDb} {roles : Roles} (holds : Holds db roles) {uid : Int}
    {result : List (String × List Int)} {db' : RoleDb}
    (ok : UserDao.getRoleIDByUser fault uid db = (.ok result, db')) :
    ∃ ids, result = [("role_ids", ids)] ∧ ids.Perm (roles uid) := by
  cases (UserDao.statement_ok ok).2
  exact ⟨_, rfl, holds.2 uid⟩

/-- From a database holding any roles, `SetUserRoles` for user `0` does not succeed. -/
theorem setUserRoles_zero_of_holds {db : RoleDb} {roles : Roles} (holds : Holds db roles)
    (rids : List Int) : (UserDao.setUserRoles fault 0 rids db).1.isOk = false := by
  obtain ⟨c, tx⟩ := db
  obtain ⟨rfl, -⟩ := holds
  exact UserDao.setUserRoles_zero rids c

end Refinement

/-- **The `user_role` table refines the abstract roles, along every run.** From a database that
holds the roles (an empty table for no roles, say), every run of `SetUserRoles`,
`DeleteRolesByUserID` and `GetRoleIDByUser` calls, whatever statement of each call fails for an
outside reason, leaves no transaction open and a table whose rows carry, for every user, the
abstract roles with each successful call applied and each failed one ignored: a successful
`SetUserRoles(uid, rids)` makes the user's roles exactly `rids`, whatever they were.
`GetRoleIDByUser` then returns the user's roles, and `SetUserRoles` for user `0` does not
succeed, whatever fails. -/
theorem userRoles_refine {db : RoleDb} {roles : Roles} (holds : Holds db roles)
    (reqs : List ((RoleCall → Option Error) × RoleRequest)) :
    let reached := runRequests (db, roles) reqs
    Holds reached.1 reached.2 ∧
      (∀ fault uid result db', UserDao.getRoleIDByUser fault uid reached.1 = (.ok result, db') →
        ∃ ids, result = [("role_ids", ids)] ∧ ids.Perm (reached.2 uid)) ∧
      ∀ fault rids, (UserDao.setUserRoles fault 0 rids reached.1).1.isOk = false := by
  have reachedHolds := holds_run holds reqs
  exact ⟨reachedHolds, fun _ _ _ _ ok => getRoleIDByUser_holds reachedHolds ok,
    fun _ => setUserRoles_zero_of_holds reachedHolds⟩

/-- From an empty table, roles `2` and `3` set for user `1`, a `SetUserRoles` for user `0`, a
`SetUserRoles` for user `1` whose commit fails, and user `1`'s roles read: user `1` keeps the
roles `[2, 3]`, and the refinement holds. -/
theorem userRoles_refine_one :
    let reached := runRequests (⟨Table.empty, none⟩, fun _ => [])
      [(fun _ => none, .setUserRoles 1 [2, 3]), (fun _ => none, .setUserRoles 0 [4]),
        (fun call => if call = .commit then some .serverInternal else none, .setUserRoles 1 [5]),
        (fun _ => none, .getRoleIDByUser 1)]
    reached.2 1 = [2, 3] ∧ reached.2 0 = [] ∧ Holds reached.1 reached.2 ∧
      (∀ fault uid result db', UserDao.getRoleIDByUser fault uid reached.1 = (.ok result, db') →
        ∃ ids, result = [("role_ids", ids)] ∧ ids.Perm (reached.2 uid)) ∧
      ∀ fault rids, (UserDao.setUserRoles fault 0 rids reached.1).1.isOk = false :=
  ⟨by decide, by decide, userRoles_refine holds_empty _⟩

end Pixiu.Db
