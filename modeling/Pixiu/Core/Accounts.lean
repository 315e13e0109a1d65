/-
**The kubeconfig operations along their runs: every record keeps its service account.**

Every record of the kubeconfig table names a service account of `kube-system` in the cluster of
its cloud. `Create` makes the account and its cluster role binding in the cluster of the cloud
it runs through before it stores the record, stamped with that cloud; `Delete` deletes the
account and binding named after the record from the cluster of the cloud it runs through, which
need not be the record's. A run is any sequence of the five operations, through any clouds, each
with its own outside failures (`Operation`, `runOperations`). A world is `Bound` when the
account of every record exists with its binding in its cloud's cluster, and no two records of
one cloud name the same account.

* `bound_create`, `bound_delete` — a `Create` that succeeds stores a record only for an account
  it has just made in its cloud's cluster, which no record of that cloud named; a `Delete` that
  succeeds through its record's own cloud removes one record together with its own account and
  binding, and every other record of that cloud names another account;
* `update_keeps_accounts` — `Update` rewrites a record's document and nothing else: the accounts
  the records name and the clusters stay as they were;
* `delete_error_keeps` — in a bound world a `Delete` through its record's cloud cannot fail
  halfway when deleting the account and the row meet no outside failure: it fails before it
  changes anything;
* **`kubeConfigs_accounts_bound`** — along every run from a bound world whose `Delete`s go
  through their records' clouds (`matchingDeletes`), the world stays bound, and every such
  `Delete` is all or nothing;
* `cross_cloud_delete_unbinds` — the condition cannot be dropped: a `Delete` of a record of the
  cloud `b` through the cloud `a` succeeds, and removes the account of the same name that a
  record of `a` names.
-/

import Pixiu.Core.KubeConfigs

namespace Pixiu.Core

open Pixiu.Db

namespace KubeConfigs

/-- The cloud and the service account each key's record names. -/
def accounts (store : Table (Row KubeConfigColumns)) (kid : Int) : Option (String × String) :=
  (store.first kid).map fun obj => (obj.columns.cloudName, obj.columns.serviceAccount)

/-- **A bound world**: the service account of every record exists with its binding in the
cluster of the record's cloud, and no two records of one cloud name the same account. -/
structure Bound (w : World) : Prop where
  account : ∀ kid cloud name, accounts w.store kid = some (cloud, name) →
    name ∈ (w.clusters cloud).serviceAccounts
  binding : ∀ kid cloud name, accounts w.store kid = some (cloud, name) →
    name ∈ (w.clusters cloud).clusterRoleBindings.map (·.name)
  unique : ∀ kid kid' named, accounts w.store kid = some named →
    accounts w.store kid' = some named → kid = kid'

/-- One call of a cloud's `kubeConfigs`, with its arguments. -/
inductive Operation where
  | create (c : KubeConfigs) (kubeConfig : KubeConfig) (now : Nat)
  | update (c : KubeConfigs) (kid : Int) (now : Nat)
  | delete (c : KubeConfigs) (kid : Int)
  | get (c : KubeConfigs) (kid : Int)
  | list (c : KubeConfigs) (cloudName : String)

section Runs

variable (env : Env)

/-- The world an operation leaves, whatever it returned. -/
def Operation.apply (w : World) : Operation → World
  | .create c kubeConfig now => (KubeConfigs.create env c kubeConfig now w).2
  | .update c kid now => (KubeConfigs.update env c kid now w).2
  | .delete c kid => (KubeConfigs.delete env c kid w).2
  | .get c kid => (KubeConfigs.get env c kid w).2
  | .list c cloudName => (KubeConfigs.list env c cloudName w).2

/-- The world after a run of operations, one after another, each meeting the outside failures
given with it. -/
def runOperations : World → List ((Call → Option Error) × Operation) → World
  | w, [] => w
  | w, (fault, op) :: rest => runOperations (op.apply { env with fault } w) rest

/-- A `Delete` of record `kid` through `c` that goes through the record's own cloud, when there
is a record, and meets no outside failure when it deletes the service account and the row. -/
def deleteMatches (w : World) (fault : Call → Option Error) (c : KubeConfigs) (kid : Int) :
    Bool :=
  (match w.store.first kid with
    | some obj => obj.columns.cloudName == c.cloud
    | none => true) &&
    (fault .deleteServiceAccount).isNone && (fault .storeDelete).isNone

/-- A run whose every `Delete` matches its record. -/
def matchingDeletes : World → List ((Call → Option Error) × Operation) → Bool
  | _, [] => true
  | w, (fault, op) :: rest =>
    (match op with
      | .delete c kid => deleteMatches w fault c kid
      | _ => true) && matchingDeletes (op.apply { env with fault } w) rest

end Runs

/-! ## Part 1 — the accounts of a table -/

theorem accounts_create_eq_some {store : Table (Row KubeConfigColumns)}
    {row : Row KubeConfigColumns} {kid : Int} {named : String × String}
    (found : accounts (store.create row).2 kid = some named) :
    kid = store.autoIncrement ∧ named = (row.columns.cloudName, row.columns.serviceAccount) ∨
      accounts store kid = some named := by
  unfold accounts at found ⊢
  rw [Table.first_create] at found
  split at found
  · cases found; exact .inl ⟨‹_›, rfl⟩
  · exact .inr found

theorem accounts_delete (store : Table (Row KubeConfigColumns)) (id kid : Int) :
    accounts (store.delete id) kid = if kid = id then none else accounts store kid := by
  unfold accounts
  rw [Table.first_delete]
  split <;> rfl

theorem bound_empty (clusters : String → Cluster) : Bound ⟨clusters, Table.empty⟩ :=
  ⟨fun _ _ _ found => (by cases found), fun _ _ _ found => (by cases found),
    fun _ _ _ found => (by cases found)⟩

/-- A world whose clusters only gained objects, and whose records name what the same keys'
records named before, stays bound. -/
theorem Bound.transfer {w w' : World} (bound : Bound w)
    (accountsKept : ∀ cloud, (w.clusters cloud).serviceAccounts ⊆
      (w'.clusters cloud).serviceAccounts)
    (bindingsKept : ∀ cloud, (w.clusters cloud).clusterRoleBindings.map (·.name) ⊆
      (w'.clusters cloud).clusterRoleBindings.map (·.name))
    (records : ∀ kid named, accounts w'.store kid = some named →
      accounts w.store kid = some named) :
    Bound w' :=
  ⟨fun kid cloud name found =>
      accountsKept cloud (bound.account kid cloud name (records kid _ found)),
    fun kid cloud name found =>
      bindingsKept cloud (bound.binding kid cloud name (records kid _ found)),
    fun kid kid' named found found' =>
      bound.unique kid kid' named (records _ _ found) (records _ _ found')⟩

theorem Bound.of_same {w w' : World} (bound : Bound w)
    (same : (w'.clusters, accounts w'.store) = (w.clusters, accounts w.store)) : Bound w' := by
  obtain ⟨clusters, store⟩ := Prod.mk.inj same
  exact bound.transfer (fun _ => clusters ▸ List.Subset.refl _)
    (fun _ => clusters ▸ List.Subset.refl _) fun kid named found => by rwa [store] at found

/-! ## Part 2 — what each operation does to a bound world -/

section Steps

variable {env : Env}

/-- The accounts and bindings a failed `Create` leaves include those it found. -/
theorem createLeftovers_grows {kubeConfig : KubeConfig} {before after : Cluster}
    (left : createLeftovers kubeConfig before after) :
    before.serviceAccounts ⊆ after.serviceAccounts ∧
      before.clusterRoleBindings.map (·.name) ⊆ after.clusterRoleBindings.map (·.name) := by
  rcases left with rfl | account | ⟨cl, account, binding⟩
  · exact ⟨List.Subset.refl _, List.Subset.refl _⟩
  · obtain ⟨-, rfl⟩ := Cluster.createServiceAccount_ok account
    exact ⟨List.subset_cons_self _ _, List.Subset.refl _⟩
  · obtain ⟨-, rfl⟩ := Cluster.createServiceAccount_ok account
    rw [Cluster.createClusterRoleBinding_ok binding]
    exact ⟨List.subset_cons_self _ _, List.subset_cons_self _ _⟩

/-- **A failed `Create` keeps the world bound**: the cluster of its cloud only gained objects,
the other clusters and the store are as they were. -/
theorem bound_create_error {c : KubeConfigs} {kubeConfig : KubeConfig} {now : Nat}
    {w w' : World} {e : Error} (bound : Bound w)
    (failed : create env c kubeConfig now w = (.error e, w')) : Bound w' := by
  obtain ⟨accountsKept, bindingsKept⟩ := createLeftovers_grows (create_error_cluster failed)
  have kept : w'.store = w.store := create_keepsOnError c kubeConfig now w _ w' failed
  have others : ∀ cloud, cloud ≠ c.cloud → w'.clusters cloud = w.clusters cloud :=
    fun _ different => create_keeps_other c kubeConfig now different w _ w' failed
  refine bound.transfer (fun cloud => ?_) (fun cloud => ?_) fun kid named found => kept ▸ found
  all_goals
    by_cases same : cloud = c.cloud
    · subst same; assumption
    · rw [others cloud same]; exact List.Subset.refl _

/-- **A successful `Create` keeps the world bound**: its record names its cloud and the account
it has just made there, with its binding, and no record of that cloud named that account
before. -/
theorem bound_create {c : KubeConfigs} {kubeConfig result : KubeConfig} {now : Nat}
    {w w' : World} (bound : Bound w) (ok : create env c kubeConfig now w = (.ok result, w')) :
    Bound w' := by
  obtain ⟨-, cl, cl', account, binding, saved⟩ := create_ok ok
  obtain ⟨shape, encrypted, row, -, columns, rfl⟩ := saveKubeConfig_ok saved
  obtain ⟨fresh, rfl⟩ := Cluster.createServiceAccount_ok account
  obtain rfl := Cluster.createClusterRoleBinding_ok binding
  have named : (row.columns.cloudName, row.columns.serviceAccount) =
      (c.cloud, kubeConfig.serviceAccount) := by rw [columns, shape]; rfl
  refine ⟨fun kid cloud name found => ?_, fun kid cloud name found => ?_,
    fun kid kid' named' found found' => ?_⟩
  · simp only [World.setCluster_store, World.setCluster_clusters]
    rcases accounts_create_eq_some found with ⟨-, new⟩ | old
    · obtain ⟨rfl, rfl⟩ := Prod.mk.inj (new.trans named)
      simp
    · split
      · next same => subst same; exact List.mem_cons_of_mem _ (bound.account kid _ name old)
      · exact bound.account kid cloud name old
  · simp only [World.setCluster_store, World.setCluster_clusters]
    rcases accounts_create_eq_some found with ⟨-, new⟩ | old
    · obtain ⟨rfl, rfl⟩ := Prod.mk.inj (new.trans named)
      simp [bindingOf]
    · split
      · next same => subst same; exact List.mem_cons_of_mem _ (bound.binding kid _ name old)
      · exact bound.binding kid cloud name old
  · have taken : ∀ k, accounts w.store k ≠ some (c.cloud, kubeConfig.serviceAccount) :=
      fun k old => fresh (bound.account k _ _ old)
    rcases accounts_create_eq_some found with ⟨rfl, new⟩ | old <;>
      rcases accounts_create_eq_some found' with ⟨rfl, new'⟩ | old'
    · rfl
    · exact absurd (new.trans named ▸ old') (taken kid')
    · exact absurd (new'.trans named ▸ old) (taken kid)
    · exact bound.unique _ _ _ old old'

/-- **A successful `Delete` through its record's cloud keeps the world bound**: it removes one
record with its own account and binding from its cloud's cluster, and every other record of
that cloud names another account. -/
theorem bound_delete {c : KubeConfigs} {kid : Int} {w w' : World} {u : Unit} (bound : Bound w)
    (own : ∀ obj, w.store.first kid = some obj → obj.columns.cloudName = c.cloud)
    (ok : delete env c kid w = (.ok u, w')) : Bound w' := by
  obtain ⟨obj, found, store, cl, cl', binding, account, clusters⟩ := delete_ok ok
  obtain rfl := Cluster.deleteClusterRoleBinding_ok binding
  obtain rfl := Cluster.deleteServiceAccount_ok account
  have mine : accounts w.store kid = some (c.cloud, obj.columns.serviceAccount) := by
    simp [accounts, found, own obj found]
  have other : ∀ kid' named, accounts w'.store kid' = some named →
      accounts w.store kid' = some named ∧ named ≠ (c.cloud, obj.columns.serviceAccount) := by
    intro kid' named found'
    rw [store, accounts_delete] at found'
    split at found'
    · cases found'
    · next ne => exact ⟨found', fun same => ne (bound.unique _ _ _ found' (same ▸ mine))⟩
  refine ⟨fun kid' cloud name found' => ?_, fun kid' cloud name found' => ?_,
    fun _ _ named found₁ found₂ =>
      bound.unique _ _ named (other _ _ found₁).1 (other _ _ found₂).1⟩ <;>
    obtain ⟨old, ne⟩ := other kid' _ found' <;>
    rw [clusters, World.setCluster_clusters] <;> split
  · next same =>
    subst same
    exact (List.mem_erase_of_ne (by simpa using ne)).mpr (bound.account _ _ _ old)
  · exact bound.account _ _ _ old
  · next same =>
    subst same
    obtain ⟨b, mem, rfl⟩ := List.mem_map.mp (bound.binding _ _ _ old)
    exact List.mem_map.mpr ⟨b, List.mem_filter.mpr ⟨mem, by simpa using ne⟩, rfl⟩
  · exact bound.binding _ _ _ old

/-- **In a bound world a `Delete` through its record's cloud cannot fail halfway**, when
deleting the service account and the row meet no outside failure: the account of the record it
read exists in that cloud's cluster, so once its binding is deleted the rest succeeds, and a
failure comes before any change. -/
theorem delete_error_keeps (accountFault : env.fault .deleteServiceAccount = none)
    (rowFault : env.fault .storeDelete = none) {w : World} (bound : Bound w) {c : KubeConfigs}
    {kid : Int} (own : ∀ obj, w.store.first kid = some obj → obj.columns.cloudName = c.cloud)
    {e : Error} {w' : World} (failed : delete env c kid w = (.error e, w')) : w' = w := by
  unfold delete at failed
  rcases Op.bind_error.mp failed with failed₁ | ⟨_, w₁, checked, failed₁⟩
  · exact checkClient_keeps c id w _ w' failed₁
  obtain ⟨-, rfl⟩ := checkClient_ok checked
  rcases Op.bind_error.mp failed₁ with failed₂ | ⟨obj, w₂, read, failed₂⟩
  · exact storeGet_keeps env kid id w₁ _ w' failed₂
  obtain ⟨found, rfl⟩ := storeGet_ok env read
  rcases Op.bind_error.mp failed₂ with failed₃ | ⟨_, w₃, deletedBinding, failed₃⟩
  · exact deleteClusterRoleBinding_keepsOnError env _ _ _ _ w' failed₃
  obtain ⟨cl, binding, rfl⟩ := call_onCluster_ok deletedBinding
  rw [Op.bind_apply, deleteServiceAccount_of_mem env accountFault ?present] at failed₃
  · dsimp only at failed₃
    rw [storeDelete_eq env rowFault] at failed₃
    cases failed₃
  · rw [World.setCluster_same, Cluster.deleteClusterRoleBinding_ok binding]
    exact bound.account kid _ _ (by simp [accounts, found, own obj found])

/-- The store write of `Update` changes the `config` column only: every record names the cloud
and the account it named, and the clusters are untouched. -/
theorem storeUpdate_config_keeps (kid : Int) (rv : BitVec 64) (encrypted : String) (now : Nat) :
    Op.Keeps (fun w => (w.clusters, accounts w.store))
      (storeUpdate env kid rv [("config", .str encrypted)] now) := by
  intro w r w' run
  unfold storeUpdate call at run
  split at run
  · cases run; rfl
  rcases updated : optimisticUpdate KubeConfigColumns.set .recordNotUpdate none w.store kid rv
      [("config", .str encrypted)] now with e | store <;>
    simp only [onStore, updated, Except.map] at run <;> cases run
  · rfl
  obtain ⟨-, row, found, -, rfl⟩ :=
    optimisticUpdate_ok KubeConfigColumns.set .recordNotUpdate updated
  refine Prod.ext rfl (funext fun k => ?_)
  dsimp only [accounts]
  rw [Table.first_put]
  split
  · next same => rw [same.1, found]; rfl
  · rfl

/-- **`Update` changes no account a record names, and no cluster object.** -/
theorem update_keeps_accounts (c : KubeConfigs) (kid : Int) (now : Nat) :
    Op.Keeps (fun w => (w.clusters, accounts w.store)) (update env c kid now) := by
  unfold update commitUpdate
  exact .bind (prepareUpdate_keeps c kid _) fun _ =>
    .bind (storeUpdate_config_keeps _ _ _ _) fun _ => Op.keeps_pure _

end Steps

/-! ## Part 3 — along every run -/

section Run

variable {env : Env}

/-- What a matching `Delete` asks of the world and of the outside failures. -/
theorem deleteMatches_iff {w : World} {fault : Call → Option Error} {c : KubeConfigs}
    {kid : Int} :
    deleteMatches w fault c kid = true ↔
      (∀ obj, w.store.first kid = some obj → obj.columns.cloudName = c.cloud) ∧
        fault .deleteServiceAccount = none ∧ fault .storeDelete = none := by
  unfold deleteMatches
  split <;> simp_all [and_assoc]

/-- **A matching `Delete` is all or nothing in a bound world**: when it fails it changes
nothing, and when it succeeds it removed its record with the binding and the service account
that record names, from its cloud's cluster. -/
theorem delete_all_or_nothing {w : World} (bound : Bound w) {fault : Call → Option Error}
    {c : KubeConfigs} {kid : Int} (matching : deleteMatches w fault c kid = true) :
    (∀ e w', delete { env with fault } c kid w = (.error e, w') → w' = w) ∧
      ∀ u w', delete { env with fault } c kid w = (.ok u, w') →
        ∃ obj, w.store.first kid = some obj ∧ w'.store = w.store.delete kid ∧
          ∃ cl cl',
            (w.clusters c.cloud).deleteClusterRoleBinding obj.columns.serviceAccount = .ok cl ∧
            cl.deleteServiceAccount obj.columns.serviceAccount = .ok cl' ∧
            w'.clusters = (w.setCluster c.cloud cl').clusters := by
  obtain ⟨own, accountFault, rowFault⟩ := deleteMatches_iff.mp matching
  exact ⟨fun _ _ failed => delete_error_keeps accountFault rowFault bound own failed,
    fun _ _ ok => delete_ok ok⟩

/-- **One operation keeps the world bound**, whatever it returns, when it is a `Delete` only if
it matches its record. -/
theorem bound_step {w : World} (bound : Bound w) (fault : Call → Option Error) :
    ∀ op : Operation, (match op with
      | .delete c kid => deleteMatches w fault c kid
      | _ => true) = true → Bound (op.apply { env with fault } w)
  | .create c kubeConfig now, _ => by
    dsimp only [Operation.apply]
    rcases created : create { env with fault } c kubeConfig now w with ⟨_ | result, w'⟩
    · exact bound_create_error bound created
    · exact bound_create bound created
  | .update c kid now, _ => bound.of_same (update_keeps_accounts c kid now w _ _ rfl)
  | .delete c kid, matching => by
    dsimp only [Operation.apply]
    obtain ⟨own, accountFault, rowFault⟩ := deleteMatches_iff.mp matching
    rcases deleted : delete { env with fault } c kid w with ⟨_ | u, w'⟩
    · exact delete_error_keeps accountFault rowFault bound own deleted ▸ bound
    · exact bound_delete bound own deleted
  | .get c kid, _ =>
    bound.of_same (get_keeps c kid (fun w => (w.clusters, accounts w.store)) w _ _ rfl)
  | .list c cloudName, _ =>
    bound.of_same (list_keeps c cloudName (fun w => (w.clusters, accounts w.store)) w _ _ rfl)

/-- Along every run whose `Delete`s match their records, a bound world stays bound. -/
theorem bound_run {w : World} (bound : Bound w) :
    ∀ ops, matchingDeletes env w ops = true → Bound (runOperations env w ops)
  | [], _ => bound
  | (fault, op) :: rest, matching => by
    simp only [matchingDeletes, Bool.and_eq_true] at matching
    exact bound_run (bound_step bound fault op matching.1) rest matching.2

end Run

/-- **Along every run, every record keeps its service account, and `Delete` is all or
nothing.** Every run of `Create`, `Update`, `Delete`, `Get` and `List` calls, through any
clouds and with any outside failures, in which every `Delete` goes through the cloud of the
record it deletes and meets no outside failure when it deletes the service account and the row,
from a world whose records' accounts exist with their bindings in their clouds' clusters and
are distinct within each cloud (an empty table, say), keeps it so. And from any world the run
reaches, such a `Delete` that fails changes nothing, and one that succeeds deletes its record
with the binding and the service account that record names. -/
theorem kubeConfigs_accounts_bound (env : Env) {w : World} (bound : Bound w)
    (ops : List ((Call → Option Error) × Operation))
    (matching : matchingDeletes env w ops = true) :
    let reached := runOperations env w ops
    Bound reached ∧
      ∀ fault c kid, deleteMatches reached fault c kid = true →
        (∀ e w', delete { env with fault } c kid reached = (.error e, w') → w' = reached) ∧
        ∀ u w', delete { env with fault } c kid reached = (.ok u, w') →
          ∃ obj, reached.store.first kid = some obj ∧ w'.store = reached.store.delete kid ∧
            ∃ cl cl', (reached.clusters c.cloud).deleteClusterRoleBinding
                obj.columns.serviceAccount = .ok cl ∧
              cl.deleteServiceAccount obj.columns.serviceAccount = .ok cl' ∧
              w'.clusters = (reached.setCluster c.cloud cl').clusters := by
  have reachedBound := bound_run bound ops matching
  exact ⟨reachedBound, fun _ _ _ fits => delete_all_or_nothing reachedBound fits⟩

/-- Clusters with only their CA, and an empty table. -/
def bareWorld : World := ⟨fun _ => ⟨[], [], some "ca"⟩, Table.empty⟩

/-- From `bareWorld`: a `Create` for `ci` through `a`, a second one (which fails at the service
account), and a `Delete` of the first record through `a`. -/
theorem kubeConfigs_accounts_bound_ci :
    let reached := runOperations plainEnv bareWorld
      [(fun _ => none, .create ⟨true, "a"⟩ ⟨"", "ci", "view", "", ""⟩ 5),
        (fun _ => none, .create ⟨true, "a"⟩ ⟨"", "ci", "edit", "", ""⟩ 6),
        (fun _ => none, .delete ⟨true, "a"⟩ 1)]
    Bound reached ∧
      ∀ fault c kid, deleteMatches reached fault c kid = true →
        (∀ e w', delete { plainEnv with fault } c kid reached = (.error e, w') → w' = reached) ∧
        ∀ u w', delete { plainEnv with fault } c kid reached = (.ok u, w') →
          ∃ obj, reached.store.first kid = some obj ∧ w'.store = reached.store.delete kid ∧
            ∃ cl cl', (reached.clusters c.cloud).deleteClusterRoleBinding
                obj.columns.serviceAccount = .ok cl ∧
              cl.deleteServiceAccount obj.columns.serviceAccount = .ok cl' ∧
              w'.clusters = (reached.setCluster c.cloud cl').clusters :=
  kubeConfigs_accounts_bound plainEnv (bound_empty _) _ (by decide)

/-- **A `Delete` through another cloud unbinds a record.** From `bareWorld`, a `Create` for `ci`
through `a`, a `Create` for `ci` through `b` and a `Delete` of the second record (of `b`)
through `a` all succeed; the run's `Delete` does not match its record, and the world it leaves
is not bound: the record of `a` names `ci`, which the cluster of `a` no longer has. -/
theorem cross_cloud_delete_unbinds :
    let ops : List ((Call → Option Error) × Operation) :=
      [(fun _ => none, .create ⟨true, "a"⟩ ⟨"", "ci", "view", "", ""⟩ 5),
        (fun _ => none, .create ⟨true, "b"⟩ ⟨"", "ci", "view", "", ""⟩ 6),
        (fun _ => none, .delete ⟨true, "a"⟩ 2)]
    matchingDeletes plainEnv bareWorld ops = false ∧
      (delete plainEnv ⟨true, "a"⟩ 2
        (runOperations plainEnv bareWorld (ops.take 2))).1 = .ok () ∧
      ¬ Bound (runOperations plainEnv bareWorld ops) := by
  exact ⟨by decide, by decide,
    fun bound => absurd (bound.account 1 "a" "ci" (by decide)) (by decide)⟩

end KubeConfigs

end Pixiu.Core
