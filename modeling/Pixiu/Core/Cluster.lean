/-
**The world the kubeconfig operations run in: each cloud's cluster, and the kubeconfig table.**

`kubeConfigs` talks to two stateful systems: the cluster behind the cloud's client
(`clientSets.Get(cloud)`: service accounts in `kube-system`, cluster role bindings, the
`kube-root-ca.crt` config map), and the database's kubeconfig table, which all clouds share.
Each cloud's client reaches the cluster of that cloud, so the world holds one cluster per cloud
name. Everything else it calls is a function of the environment `Env`: the cipher, yaml, base64,
the token the API server issues, and which calls fail for reasons outside the model (the
network, RBAC, admission, the database), each with its error.

Every call is an `Op World Error`, and each has its frame lemmas here: a failed call leaves the
world as it was (`*_keepsOnError`), a cluster call keeps the store and the other clouds'
clusters, and a store call every cluster (`*_keeps_store`, `*_keeps_other`, `*_keeps_clusters`),
a read keeps everything (`*_keeps`), and a successful call made exactly its own change (`*_ok`).
The operations of `KubeConfigs` are inverted through these and `Op.bind_ok`/`Op.bind_error`
only.

The kubeconfig DAO is not in the source. Its `Create`, `Get`, `Delete` and `List` are the gorm
statements of `Table`, and its `Update` is the compare-and-set of `tenant.Update` and
`user.Update` (`optimisticUpdate`), failing with `ErrRecordNotUpdate`.
-/

import Pixiu.Core.Kubeconfig
import Pixiu.Db.OptimisticLock

namespace Pixiu.Core

open Pixiu.Db

/-- A `ClusterRoleBinding` of one service account of `kube-system` to a cluster role. -/
structure ClusterRoleBinding where
  name : String
  subject : String
  roleRef : String
deriving DecidableEq, Repr

/-- The API objects of a cluster the kubeconfig operations touch. -/
structure Cluster where
  /-- The service accounts of `kube-system`, by name. -/
  serviceAccounts : List String
  clusterRoleBindings : List ClusterRoleBinding
  /-- `kube-root-ca.crt`'s `ca.crt`, when the config map exists (an absent key reads `""`). -/
  rootCA : Option String
deriving DecidableEq, Repr

/-- `TokenRequest.Status`: the token, and its expiry as `ExpirationTimestamp.String()` prints
it. -/
structure TokenStatus where
  token : String
  expirationTimestamp : String
deriving DecidableEq, Repr

/-- The calls of the kubeconfig operations to the API server and the database. -/
inductive Call where
  | createServiceAccount | createClusterRoleBinding | getConfigMap | createToken
  | deleteClusterRoleBinding | deleteServiceAccount
  | storeCreate | storeGet | storeUpdate | storeDelete | storeList
deriving DecidableEq, Repr

/-- The columns `model.KubeConfig` adds to `pixiu.Model`. -/
structure KubeConfigColumns where
  cloudName : String
  serviceAccount : String
  clusterRole : String
  config : String
  expirationTimestamp : String
deriving DecidableEq, Repr

/-- `Updates` writes a column of `model.KubeConfig`, by its gorm column name. -/
def KubeConfigColumns.set (columns : KubeConfigColumns) : String → Value → KubeConfigColumns
  | "cloud_name", .str s => { columns with cloudName := s }
  | "service_account", .str s => { columns with serviceAccount := s }
  | "cluster_role", .str s => { columns with clusterRole := s }
  | "config", .str s => { columns with config := s }
  | "expiration_timestamp", .str s => { columns with expirationTimestamp := s }
  | _, _ => columns

/-- `types.KubeConfig`. -/
structure KubeConfig where
  cloudName : String
  serviceAccount : String
  clusterRole : String
  config : String
  expirationTimestamp : String
deriving DecidableEq, Repr

/-- The cluster behind each cloud's client, by the cloud's name, and the kubeconfig table the
clouds share. -/
structure World where
  clusters : String → Cluster
  store : Table (Row KubeConfigColumns)

/-- The world with the cluster of `cloud` replaced. -/
def World.setCluster (w : World) (cloud : String) (cl : Cluster) : World :=
  { w with clusters := Function.update w.clusters cloud cl }

@[simp] theorem World.setCluster_store (w : World) (cloud : String) (cl : Cluster) :
    (w.setCluster cloud cl).store = w.store := rfl

@[simp] theorem World.setCluster_same (w : World) (cloud : String) (cl : Cluster) :
    (w.setCluster cloud cl).clusters cloud = cl := Function.update_same _ _ _

theorem World.setCluster_other (w : World) {cloud other : String} (cl : Cluster)
    (different : other ≠ cloud) : (w.setCluster cloud cl).clusters other = w.clusters other :=
  Function.update_noteq different _ _

theorem World.setCluster_clusters (w : World) (cloud : String) (cl : Cluster) (other : String) :
    (w.setCluster cloud cl).clusters other = if other = cloud then cl else w.clusters other :=
  Function.update_apply _ _ _ _

@[simp] theorem World.setCluster_setCluster (w : World) (cloud : String) (cl cl' : Cluster) :
    (w.setCluster cloud cl).setCluster cloud cl' = w.setCluster cloud cl' := by
  simp only [World.setCluster, Function.update_idem]

/-- What the kubeconfig operations call outside the model. -/
structure Env where
  /-- `cipher.Encrypt`. -/
  encrypt : String → Except Error String
  /-- `cipher.Decrypt`. -/
  decrypt : String → Except Error String
  /-- `yaml.Marshal` of a kubeconfig. -/
  marshal : Kubeconfig → Except Error String
  /-- `yaml.Unmarshal` into the given document. -/
  unmarshal : String → Kubeconfig → Except Error Kubeconfig
  /-- `base64.StdEncoding.EncodeToString`. -/
  base64 : String → String
  /-- The token status the API server returns for a service account. -/
  issueToken : String → TokenStatus
  /-- The calls that fail for reasons outside the model, with their error. -/
  fault : Call → Option Error

/-! ## Part 1 — the calls -/

namespace Cluster

/-- The API server's answer to a service account create. -/
def createServiceAccount (cl : Cluster) (name : String) : Except Error Cluster :=
  if name ∈ cl.serviceAccounts then .error (.alreadyExists name)
  else .ok { cl with serviceAccounts := name :: cl.serviceAccounts }

/-- The API server's answer to a cluster role binding create. -/
def createClusterRoleBinding (cl : Cluster) (binding : ClusterRoleBinding) : Except Error Cluster :=
  if binding.name ∈ cl.clusterRoleBindings.map (·.name) then .error (.alreadyExists binding.name)
  else .ok { cl with clusterRoleBindings := binding :: cl.clusterRoleBindings }

/-- The API server's answer to a cluster role binding delete. -/
def deleteClusterRoleBinding (cl : Cluster) (name : String) : Except Error Cluster :=
  if name ∈ cl.clusterRoleBindings.map (·.name) then
    .ok { cl with clusterRoleBindings := cl.clusterRoleBindings.filter (·.name != name) }
  else .error (.notFound name)

/-- The API server's answer to a service account delete. -/
def deleteServiceAccount (cl : Cluster) (name : String) : Except Error Cluster :=
  if name ∈ cl.serviceAccounts then .ok { cl with serviceAccounts := cl.serviceAccounts.erase name }
  else .error (.notFound name)

theorem createServiceAccount_ok {cl cl' : Cluster} {name : String}
    (ok : cl.createServiceAccount name = .ok cl') :
    name ∉ cl.serviceAccounts ∧
      cl' = { cl with serviceAccounts := name :: cl.serviceAccounts } := by
  unfold createServiceAccount at ok
  split at ok
  · cases ok
  · cases ok; exact ⟨‹_›, rfl⟩

theorem createClusterRoleBinding_ok {cl cl' : Cluster} {binding : ClusterRoleBinding}
    (ok : cl.createClusterRoleBinding binding = .ok cl') :
    cl' = { cl with clusterRoleBindings := binding :: cl.clusterRoleBindings } := by
  unfold createClusterRoleBinding at ok
  split at ok
  · cases ok
  · cases ok; rfl

theorem deleteClusterRoleBinding_ok {cl cl' : Cluster} {name : String}
    (ok : cl.deleteClusterRoleBinding name = .ok cl') :
    cl' = { cl with clusterRoleBindings := cl.clusterRoleBindings.filter (·.name != name) } := by
  unfold deleteClusterRoleBinding at ok
  split at ok
  · cases ok; rfl
  · cases ok

theorem deleteClusterRoleBinding_of_missing {cl : Cluster} {name : String}
    (missing : name ∉ cl.clusterRoleBindings.map (·.name)) :
    cl.deleteClusterRoleBinding name = .error (.notFound name) :=
  if_neg missing

theorem deleteServiceAccount_ok {cl cl' : Cluster} {name : String}
    (ok : cl.deleteServiceAccount name = .ok cl') :
    cl' = { cl with serviceAccounts := cl.serviceAccounts.erase name } := by
  unfold deleteServiceAccount at ok
  split at ok
  · cases ok; rfl
  · cases ok

end Cluster

/-- A call that changes the cluster of `cloud`, and only that cluster. -/
def onCluster (cloud : String) (change : Cluster → Except Error Cluster) : Op World Error Unit :=
  fun w =>
    match change (w.clusters cloud) with
    | .ok cl => (.ok (), w.setCluster cloud cl)
    | .error e => (.error e, w)

/-- A call that reads the cluster of `cloud`. -/
def readCluster {α : Type} (cloud : String) (read : Cluster → Except Error α) :
    Op World Error α := fun w =>
  (read (w.clusters cloud), w)

/-- A call that changes the store, and only the store. -/
def onStore {α : Type} (change : Table (Row KubeConfigColumns) →
    Except Error (α × Table (Row KubeConfigColumns))) : Op World Error α := fun w =>
  match change w.store with
  | .ok (a, store) => (.ok a, { w with store })
  | .error e => (.error e, w)

/-- A call that reads the store. -/
def readStore {α : Type} (read : Table (Row KubeConfigColumns) → Except Error α) :
    Op World Error α := fun w =>
  (read w.store, w)

section Calls

variable (env : Env)

/-- A call: the environment's failure if it has one for it, the call's own effect otherwise. -/
def call {α : Type} (c : Call) (body : Op World Error α) : Op World Error α := fun w =>
  match env.fault c with
  | some e => (.error e, w)
  | none => body w

/-- `ServiceAccounts("kube-system").Create`, through the client of `cloud`. -/
def createServiceAccount (cloud name : String) : Op World Error Unit :=
  call env .createServiceAccount (onCluster cloud (·.createServiceAccount name))

/-- `ClusterRoleBindings().Create`, through the client of `cloud`. -/
def createClusterRoleBinding (cloud : String) (binding : ClusterRoleBinding) :
    Op World Error Unit :=
  call env .createClusterRoleBinding (onCluster cloud (·.createClusterRoleBinding binding))

/-- `kubeConfigs.newCA`: the `kube-root-ca.crt` config map's `ca.crt` of the cluster of `cloud`,
base64-encoded. -/
def newCA (cloud : String) : Op World Error String :=
  call env .getConfigMap <| readCluster cloud fun cl =>
    match cl.rootCA with
    | some ca => .ok (env.base64 ca)
    | none => .error (.notFound "kube-root-ca.crt")

/-- `kubeConfigs.createToken`: a token request for the service account, through the client of
`cloud`. -/
def createToken (cloud saName : String) : Op World Error TokenStatus :=
  call env .createToken <| readCluster cloud fun cl =>
    if saName ∈ cl.serviceAccounts then .ok (env.issueToken saName) else .error (.notFound saName)

/-- `ClusterRoleBindings().Delete`, through the client of `cloud`. -/
def deleteClusterRoleBinding (cloud name : String) : Op World Error Unit :=
  call env .deleteClusterRoleBinding (onCluster cloud (·.deleteClusterRoleBinding name))

/-- `ServiceAccounts("kube-system").Delete`, through the client of `cloud`. -/
def deleteServiceAccount (cloud name : String) : Op World Error Unit :=
  call env .deleteServiceAccount (onCluster cloud (·.deleteServiceAccount name))

/-- The kubeconfig DAO's `Create`: both times stamped, the row stored under a fresh key. -/
def storeCreate (obj : Row KubeConfigColumns) (now : Nat) : Op World Error Int :=
  call env .storeCreate <| onStore fun store =>
    .ok (store.create { obj with pixiu.gmtCreate := now, pixiu.gmtModified := now })

/-- The kubeconfig DAO's `Get`. -/
def storeGet (kid : Int) : Op World Error (Row KubeConfigColumns) :=
  call env .storeGet <| readStore fun store =>
    match store.first kid with
    | some obj => .ok obj
    | none => .error .recordNotFound

/-- The kubeconfig DAO's `Update`: the compare-and-set of `tenant.Update`. -/
def storeUpdate (kid : Int) (resourceVersion : BitVec 64) (updates : Updates) (now : Nat) :
    Op World Error Unit :=
  call env .storeUpdate <| onStore fun store =>
    (optimisticUpdate KubeConfigColumns.set .recordNotUpdate none store kid resourceVersion
      updates now).map ((), ·)

/-- The kubeconfig DAO's `Delete`. -/
def storeDelete (kid : Int) : Op World Error Unit :=
  call env .storeDelete <| onStore fun store => .ok ((), store.delete kid)

/-- The kubeconfig DAO's `List(cloudName)`: the rows of that cloud. -/
def storeList (cloudName : String) : Op World Error (List (Row KubeConfigColumns)) :=
  call env .storeList <| readStore fun store =>
    .ok ((store.find fun obj => obj.columns.cloudName = cloudName).map Prod.snd)

end Calls

/-! ## Part 2 — what each kind of call can change -/

section Frames

variable {env : Env} {α β : Type}

theorem onCluster_keeps_store (cloud : String) (change : Cluster → Except Error Cluster) :
    Op.Keeps World.store (onCluster cloud change) := by
  intro w r w' run
  unfold onCluster at run
  split at run <;> cases run <;> rfl

/-- A change to the cluster of one cloud keeps the cluster of every other. -/
theorem onCluster_keeps_other {cloud other : String} (different : other ≠ cloud)
    (change : Cluster → Except Error Cluster) :
    Op.Keeps (fun w => w.clusters other) (onCluster cloud change) := by
  intro w r w' run
  unfold onCluster at run
  split at run <;> cases run
  · exact World.setCluster_other _ _ different
  · rfl

theorem onStore_keeps_clusters (change : Table (Row KubeConfigColumns) →
    Except Error (α × Table (Row KubeConfigColumns))) :
    Op.Keeps World.clusters (onStore change) := by
  intro w r w' run
  unfold onStore at run
  split at run <;> cases run <;> rfl

theorem readCluster_keeps (cloud : String) (read : Cluster → Except Error α) (view : World → β) :
    Op.Keeps view (readCluster cloud read) := by
  intro w r w' run; cases run; rfl

theorem readStore_keeps (read : Table (Row KubeConfigColumns) → Except Error α)
    (view : World → β) : Op.Keeps view (readStore read) := by
  intro w r w' run; cases run; rfl

/-- A failing change to a cluster leaves the world as it was. -/
theorem onCluster_keepsOnError (cloud : String) (change : Cluster → Except Error Cluster) :
    Op.KeepsOnError id (onCluster cloud change) := by
  intro w e w' run
  unfold onCluster at run
  split at run <;> cases run; rfl

/-- A failing change to the store leaves the world as it was. -/
theorem onStore_keepsOnError (change : Table (Row KubeConfigColumns) →
    Except Error (α × Table (Row KubeConfigColumns))) :
    Op.KeepsOnError id (onStore change) := by
  intro w e w' run
  unfold onStore at run
  split at run <;> cases run; rfl

theorem call_keeps {view : World → β} {c : Call} {body : Op World Error α}
    (keeps : Op.Keeps view body) : Op.Keeps view (call env c body) := by
  intro w r w' run
  unfold call at run
  split at run
  · cases run; rfl
  · exact keeps w r w' run

theorem call_keepsOnError {view : World → β} {c : Call} {body : Op World Error α}
    (keeps : Op.KeepsOnError view body) : Op.KeepsOnError view (call env c body) := by
  intro w e w' run
  unfold call at run
  split at run
  · cases run; rfl
  · exact keeps w e w' run

/-- A call that ran its body. -/
theorem call_ok {c : Call} {body : Op World Error α} {w w' : World} {a : α}
    (ok : call env c body w = (.ok a, w')) : body w = (.ok a, w') := by
  unfold call at ok
  split at ok
  · cases ok
  · exact ok

theorem onCluster_ok {cloud : String} {change : Cluster → Except Error Cluster} {w w' : World}
    {u : Unit} (ok : onCluster cloud change w = (.ok u, w')) :
    ∃ cl, change (w.clusters cloud) = .ok cl ∧ w' = w.setCluster cloud cl := by
  unfold onCluster at ok
  split at ok
  · cases ok; exact ⟨_, ‹_›, rfl⟩
  · cases ok

theorem onStore_ok {change : Table (Row KubeConfigColumns) →
    Except Error (α × Table (Row KubeConfigColumns))} {w w' : World} {a : α}
    (ok : onStore change w = (.ok a, w')) :
    ∃ store, change w.store = .ok (a, store) ∧ w' = { w with store } := by
  unfold onStore at ok
  split at ok
  · cases ok; exact ⟨_, ‹_›, rfl⟩
  · cases ok

theorem call_onCluster_ok {c : Call} {cloud : String} {change : Cluster → Except Error Cluster}
    {w w' : World} {u : Unit} (ok : call env c (onCluster cloud change) w = (.ok u, w')) :
    ∃ cl, change (w.clusters cloud) = .ok cl ∧ w' = w.setCluster cloud cl :=
  onCluster_ok (call_ok ok)

end Frames

/-! ## Part 3 — each call's frame -/

section CallFrames

variable (env : Env) {β : Type}

theorem createServiceAccount_keeps_store (cloud name : String) :
    Op.Keeps World.store (createServiceAccount env cloud name) :=
  call_keeps (onCluster_keeps_store _ _)

theorem createClusterRoleBinding_keeps_store (cloud : String) (binding : ClusterRoleBinding) :
    Op.Keeps World.store (createClusterRoleBinding env cloud binding) :=
  call_keeps (onCluster_keeps_store _ _)

theorem deleteClusterRoleBinding_keeps_store (cloud name : String) :
    Op.Keeps World.store (deleteClusterRoleBinding env cloud name) :=
  call_keeps (onCluster_keeps_store _ _)

theorem deleteServiceAccount_keeps_store (cloud name : String) :
    Op.Keeps World.store (deleteServiceAccount env cloud name) :=
  call_keeps (onCluster_keeps_store _ _)

theorem createServiceAccount_keeps_other {cloud other : String} (different : other ≠ cloud)
    (name : String) :
    Op.Keeps (fun w => w.clusters other) (createServiceAccount env cloud name) :=
  call_keeps (onCluster_keeps_other different _)

theorem createClusterRoleBinding_keeps_other {cloud other : String} (different : other ≠ cloud)
    (binding : ClusterRoleBinding) :
    Op.Keeps (fun w => w.clusters other) (createClusterRoleBinding env cloud binding) :=
  call_keeps (onCluster_keeps_other different _)

theorem deleteClusterRoleBinding_keeps_other {cloud other : String} (different : other ≠ cloud)
    (name : String) :
    Op.Keeps (fun w => w.clusters other) (deleteClusterRoleBinding env cloud name) :=
  call_keeps (onCluster_keeps_other different _)

theorem deleteServiceAccount_keeps_other {cloud other : String} (different : other ≠ cloud)
    (name : String) :
    Op.Keeps (fun w => w.clusters other) (deleteServiceAccount env cloud name) :=
  call_keeps (onCluster_keeps_other different _)

theorem newCA_keeps (cloud : String) (view : World → β) : Op.Keeps view (newCA env cloud) :=
  call_keeps (readCluster_keeps _ _ _)

theorem createToken_keeps (cloud saName : String) (view : World → β) :
    Op.Keeps view (createToken env cloud saName) := call_keeps (readCluster_keeps _ _ _)

/-- A token is issued only for a service account that the cloud's cluster has. -/
theorem createToken_ok {cloud saName : String} {w w' : World} {token : TokenStatus}
    (ok : createToken env cloud saName w = (.ok token, w')) :
    saName ∈ (w.clusters cloud).serviceAccounts ∧ w' = w := by
  have read := call_ok ok
  simp only [readCluster, Prod.mk.injEq] at read
  split at read
  · exact ⟨‹_›, read.2.symm⟩
  · cases read.1

theorem storeGet_keeps (kid : Int) (view : World → β) : Op.Keeps view (storeGet env kid) :=
  call_keeps (readStore_keeps _ _)

theorem storeList_keeps (cloudName : String) (view : World → β) :
    Op.Keeps view (storeList env cloudName) := call_keeps (readStore_keeps _ _)

theorem storeCreate_keeps_clusters (obj : Row KubeConfigColumns) (now : Nat) :
    Op.Keeps World.clusters (storeCreate env obj now) := call_keeps (onStore_keeps_clusters _)

theorem storeUpdate_keeps_clusters (kid : Int) (rv : BitVec 64) (updates : Updates) (now : Nat) :
    Op.Keeps World.clusters (storeUpdate env kid rv updates now) :=
  call_keeps (onStore_keeps_clusters _)

theorem storeDelete_keeps_clusters (kid : Int) :
    Op.Keeps World.clusters (storeDelete env kid) := call_keeps (onStore_keeps_clusters _)

theorem storeCreate_keepsOnError (obj : Row KubeConfigColumns) (now : Nat) :
    Op.KeepsOnError id (storeCreate env obj now) := call_keepsOnError (onStore_keepsOnError _)

theorem storeDelete_keepsOnError (kid : Int) : Op.KeepsOnError id (storeDelete env kid) :=
  call_keepsOnError (onStore_keepsOnError _)

theorem createServiceAccount_keepsOnError (cloud name : String) :
    Op.KeepsOnError id (createServiceAccount env cloud name) :=
  call_keepsOnError (onCluster_keepsOnError _ _)

theorem createClusterRoleBinding_keepsOnError (cloud : String) (binding : ClusterRoleBinding) :
    Op.KeepsOnError id (createClusterRoleBinding env cloud binding) :=
  call_keepsOnError (onCluster_keepsOnError _ _)

theorem deleteClusterRoleBinding_keepsOnError (cloud name : String) :
    Op.KeepsOnError id (deleteClusterRoleBinding env cloud name) :=
  call_keepsOnError (onCluster_keepsOnError _ _)

theorem deleteServiceAccount_keepsOnError (cloud name : String) :
    Op.KeepsOnError id (deleteServiceAccount env cloud name) :=
  call_keepsOnError (onCluster_keepsOnError _ _)

/-- A successful `Get` found the row, and changed nothing. -/
theorem storeGet_ok {kid : Int} {w w' : World} {obj : Row KubeConfigColumns}
    (ok : storeGet env kid w = (.ok obj, w')) : w.store.first kid = some obj ∧ w' = w := by
  have body := call_ok ok
  rcases found : w.store.first kid with _ | row <;> simp [readStore, found] at body
  obtain ⟨rfl, rfl⟩ := body
  exact ⟨rfl, rfl⟩

/-- A successful store `Create` put the stamped row under the next key. -/
theorem storeCreate_ok {obj : Row KubeConfigColumns} {now : Nat} {w w' : World} {id : Int}
    (ok : storeCreate env obj now w = (.ok id, w')) :
    id = w.store.autoIncrement ∧ w' = { w with store :=
      (w.store.create { obj with pixiu.gmtCreate := now, pixiu.gmtModified := now }).2 } := by
  obtain ⟨store, created, rfl⟩ := onStore_ok (call_ok ok)
  cases created
  exact ⟨rfl, rfl⟩

/-- Unless it fails for an outside reason, the store `Update` is the compare-and-set. -/
theorem storeUpdate_eq (noFault : env.fault .storeUpdate = none) (kid : Int) (rv : BitVec 64)
    (updates : Updates) (now : Nat) (w : World) :
    storeUpdate env kid rv updates now w =
      match optimisticUpdate KubeConfigColumns.set .recordNotUpdate none w.store kid rv updates
        now with
      | .ok store => (.ok (), { w with store })
      | .error e => (.error e, w) := by
  unfold storeUpdate call
  rw [noFault]
  dsimp only [onStore]
  cases optimisticUpdate KubeConfigColumns.set .recordNotUpdate none w.store kid rv updates now <;>
    rfl

/-- Unless it fails for an outside reason, deleting a service account that exists succeeds. -/
theorem deleteServiceAccount_of_mem (noFault : env.fault .deleteServiceAccount = none)
    {w : World} {cloud name : String} (present : name ∈ (w.clusters cloud).serviceAccounts) :
    deleteServiceAccount env cloud name w =
      (.ok (), w.setCluster cloud { w.clusters cloud with
        serviceAccounts := (w.clusters cloud).serviceAccounts.erase name }) := by
  unfold deleteServiceAccount call
  rw [noFault]
  simp only [onCluster, Cluster.deleteServiceAccount, if_pos present]

/-- Unless it fails for an outside reason, the store `Delete` succeeds. -/
theorem storeDelete_eq (noFault : env.fault .storeDelete = none) (kid : Int) (w : World) :
    storeDelete env kid w = (.ok (), { w with store := w.store.delete kid }) := by
  unfold storeDelete call
  rw [noFault]
  rfl

end CallFrames

end Pixiu.Core
