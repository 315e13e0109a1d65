/-
**`kubeConfigs`: a cloud's kubeconfig operations.**

`cloud.KubeConfigs(cloud)` pairs the cloud's client (`nil` when the cloud has none) with the
cloud's name; the client reaches the cloud's own cluster, and the kubeconfig table is shared by
all clouds. `Create` makes a service account and its cluster role binding in the cloud's
cluster, reads that cluster's CA, asks it for a token, builds the kubeconfig document, and
stores it encrypted, stamped with the cloud; `Update` reissues the token through the cloud's
client and rewrites the stored document; `Delete` removes the binding and the service account
from the cloud's cluster, and the record; `Get` and `List` read records back, decrypting their
document.

Each operation is inverted through the spec lemmas of its calls (`saveKubeConfig_ok`,
`create_ok`, `prepareUpdate_ok`, `list_ok`) and their frames, never by unfolding a call.

* **`kubeConfigs_error_effects`** — a failed `Create` or `Delete` leaves the store and the other
  clouds' clusters as they were (the store call is the last one), but keeps what the calls to
  its cloud's cluster before the failing one did (`createLeftovers`, `deleteLeftovers`): nothing
  is rolled back;
* `create_then_get` — with a cipher that decrypts what it encrypted, `Get` of the record a
  successful `Create` inserted returns what `Create` returned;
* **`kubeConfigs_addressed_by_id`** — `Get`, `Update` and `Delete` address a record by its id
  alone, whatever its cloud: `Get` reads only whether the cloud has a client, while `Update` and
  `Delete` act through the cluster of the cloud they run through, with the record's service
  account name; `List` returns exactly the records of the cloud name it is given, and `Create`
  stamps its record with its cloud.
-/

import Pixiu.Core.Cluster

namespace Pixiu.Core

open Pixiu.Db

/-! ## Part 1 — the operations -/

/-- `kubeConfigs`: whether the cloud has a client, and the cloud's name, by which the world
finds the cluster the client reaches. -/
structure KubeConfigs where
  client : Bool
  cloud : String

/-- `cloud.KubeConfigs(cloud)`: `NewKubeConfigs(clientSets.Get(cloud), cloud, c.factory)`. -/
def kubeConfigsOf (clientSets : String → Bool) (cloud : String) : KubeConfigs :=
  ⟨clientSets cloud, cloud⟩

/-- `kubeConfigs.model2Type`. -/
def model2Type (m : Row KubeConfigColumns) : KubeConfig where
  cloudName := m.columns.cloudName
  serviceAccount := m.columns.serviceAccount
  clusterRole := m.columns.clusterRole
  config := m.columns.config
  expirationTimestamp := m.columns.expirationTimestamp

/-- `kubeConfigs.type2Model`: a row whose `pixiu.Model` is zero. -/
def type2Model (t : KubeConfig) : Row KubeConfigColumns where
  pixiu := ⟨0, 0, 0⟩
  columns := ⟨t.cloudName, t.serviceAccount, t.clusterRole, t.config, t.expirationTimestamp⟩

/-- The server address `Create` writes into every document. -/
def serverAddr : String := "https://39.100.127.217:6443"

/-- The binding `Create` makes: the service account's name, bound to the cluster role. -/
def bindingOf (kubeConfig : KubeConfig) : ClusterRoleBinding :=
  ⟨kubeConfig.serviceAccount, kubeConfig.serviceAccount, kubeConfig.clusterRole⟩

namespace KubeConfigs

variable (env : Env)

/-- `if c.client == nil { return clientError }`. -/
def checkClient (c : KubeConfigs) : Op World Error Unit := unless c.client do throw .client

/-- `Create` from the CA on: the CA, the token, the document, and the store write. -/
def saveKubeConfig (c : KubeConfigs) (kubeConfig : KubeConfig) (now : Nat) :
    Op World Error KubeConfig := do
  let ca ← newCA env c.cloud
  let token ← createToken env c.cloud kubeConfig.serviceAccount
  let some config := buildConfig serverAddr ca kubeConfig.serviceAccount token.token
    | throw .indexOutOfRange
  let configByte ← Op.lift (env.marshal config)
  let kubeConfig := { kubeConfig with
    cloudName := c.cloud
    config := configByte
    expirationTimestamp := token.expirationTimestamp }
  let obj := type2Model kubeConfig
  let encrypted ← Op.lift (env.encrypt configByte)
  let _ ← storeCreate env { obj with columns.config := encrypted } now
  return kubeConfig

/-- `kubeConfigs.Create`. -/
def create (c : KubeConfigs) (kubeConfig : KubeConfig) (now : Nat) : Op World Error KubeConfig := do
  checkClient c
  createServiceAccount env c.cloud kubeConfig.serviceAccount
  createClusterRoleBinding env c.cloud (bindingOf kubeConfig)
  saveKubeConfig env c kubeConfig now

/-- What `Update` has when it reaches the store: the row it read, the rewritten document, its
encryption, and the new token. -/
structure PendingUpdate where
  obj : Row KubeConfigColumns
  newConfigByte : String
  encrypted : String
  token : TokenStatus

/-- `Update` up to the store write: read, decrypt and decode the record, reissue the token,
rewrite the document and encrypt it. -/
def prepareUpdate (c : KubeConfigs) (kid : Int) : Op World Error PendingUpdate := do
  checkClient c
  let obj ← storeGet env kid
  let configByte ← Op.lift (env.decrypt obj.columns.config)
  let config ← Op.lift (env.unmarshal configByte newConfig)
  let token ← createToken env c.cloud obj.columns.serviceAccount
  let some config := config.setSA obj.columns.serviceAccount token.token | throw .indexOutOfRange
  let newConfigByte ← Op.lift (env.marshal config)
  let encrypted ← Op.lift (env.encrypt newConfigByte)
  return ⟨obj, newConfigByte, encrypted, token⟩

/-- `Update` from the store write on: `Update(kid, obj.ResourceVersion+1, {"config": ...})`,
then the result built from the row read. -/
def commitUpdate (kid : Int) (pending : PendingUpdate) (now : Nat) : Op World Error KubeConfig := do
  storeUpdate env kid (pending.obj.pixiu.resourceVersion + 1) [("config", .str pending.encrypted)]
    now
  return { model2Type pending.obj with
    config := pending.newConfigByte
    expirationTimestamp := pending.token.expirationTimestamp }

/-- `kubeConfigs.Update`. -/
def update (c : KubeConfigs) (kid : Int) (now : Nat) : Op World Error KubeConfig := do
  let pending ← prepareUpdate env c kid
  commitUpdate env kid pending now

/-- `kubeConfigs.Delete`. -/
def delete (c : KubeConfigs) (kid : Int) : Op World Error Unit := do
  checkClient c
  let obj ← storeGet env kid
  deleteClusterRoleBinding env c.cloud obj.columns.serviceAccount
  deleteServiceAccount env c.cloud obj.columns.serviceAccount
  storeDelete env kid

/-- `kubeConfigs.Get`. -/
def get (c : KubeConfigs) (kid : Int) : Op World Error KubeConfig := do
  checkClient c
  let obj ← storeGet env kid
  let configByte ← Op.lift (env.decrypt obj.columns.config)
  return { model2Type obj with config := configByte }

/-- The loop of `List`: each row with its document decrypted, in order, up to the first
failure. -/
def decryptEach : List (Row KubeConfigColumns) → Except Error (List KubeConfig)
  | [] => .ok []
  | obj :: rest => do
    let configByte ← env.decrypt obj.columns.config
    let kubeConfigs ← decryptEach rest
    return { model2Type obj with config := configByte } :: kubeConfigs

/-- `kubeConfigs.List`. -/
def list (c : KubeConfigs) (cloudName : String) : Op World Error (List KubeConfig) := do
  checkClient c
  let objs ← storeList env cloudName
  Op.lift (decryptEach env objs)

/-! ## Part 2 — what each step does -/

variable {env}

theorem checkClient_keeps (c : KubeConfigs) {β : Type} (view : World → β) :
    Op.Keeps view (checkClient c) := by
  rcases c with ⟨_ | _, _⟩
  · exact Op.keeps_throw _
  · exact Op.keeps_pure _

theorem checkClient_ok {c : KubeConfigs} {w w' : World} {u : Unit}
    (ok : checkClient c w = (.ok u, w')) : c.client = true ∧ w' = w := by
  rcases c with ⟨_ | _, _⟩ <;> cases ok
  exact ⟨rfl, rfl⟩

@[simp] theorem checkClient_of_client {c : KubeConfigs} (client : c.client = true) :
    checkClient c = pure () := by
  rcases c with ⟨_, _⟩; cases client; rfl

theorem saveKubeConfig_keeps_clusters (c : KubeConfigs) (kubeConfig : KubeConfig) (now : Nat) :
    Op.Keeps World.clusters (saveKubeConfig env c kubeConfig now) := by
  unfold saveKubeConfig
  refine .bind (newCA_keeps env _ _) fun _ => .bind (createToken_keeps env _ _ _) fun _ => ?_
  rw [buildConfig_eq]
  exact .bind (Op.keeps_lift _) fun _ => .bind (Op.keeps_lift _) fun _ =>
    .bind (storeCreate_keeps_clusters env _ _) fun _ => Op.keeps_pure _

theorem saveKubeConfig_keepsOnError (c : KubeConfigs) (kubeConfig : KubeConfig) (now : Nat) :
    Op.KeepsOnError World.store (saveKubeConfig env c kubeConfig now) := by
  unfold saveKubeConfig
  refine .bind (newCA_keeps env _ _) fun _ => .bind (createToken_keeps env _ _ _) fun _ => ?_
  rw [buildConfig_eq]
  exact .bind (Op.keeps_lift _) fun _ => .bind (Op.keeps_lift _) fun _ =>
    .bind_pure ((storeCreate_keepsOnError env _ _).ofId _)

/-- A successful `saveKubeConfig` returned the input with the cloud, the document and the
token's expiry filled in, and stored it, with the document encrypted, under the next key. -/
theorem saveKubeConfig_ok {c : KubeConfigs} {kubeConfig result : KubeConfig} {now : Nat}
    {w w' : World} (ok : saveKubeConfig env c kubeConfig now w = (.ok result, w')) :
    result = { kubeConfig with
      cloudName := c.cloud
      config := result.config
      expirationTimestamp := result.expirationTimestamp } ∧
    ∃ encrypted row, env.encrypt result.config = .ok encrypted ∧
      row.columns = { (type2Model result).columns with config := encrypted } ∧
      w' = { w with store := (w.store.create row).2 } := by
  unfold saveKubeConfig at ok
  obtain ⟨_, w₁, read, ok₁⟩ := Op.bind_ok.mp ok
  obtain ⟨token, w₂, issued, ok₂⟩ := Op.bind_ok.mp ok₁
  rw [buildConfig_eq] at ok₂
  obtain ⟨configByte, w₃, marshalled, ok₃⟩ := Op.bind_ok.mp ok₂
  obtain ⟨encrypted, w₄, enc, ok₄⟩ := Op.bind_ok.mp ok₃
  obtain ⟨_, w₅, stored, ok₅⟩ := Op.bind_ok.mp ok₄
  simp only [Op.lift_apply, Prod.mk.injEq] at marshalled enc
  have same : w₄ = w := by
    rw [← enc.2, ← marshalled.2]
    exact (createToken_keeps env _ _ id w₁ _ w₂ issued).trans (newCA_keeps env _ id w _ w₁ read)
  subst same
  obtain ⟨-, rfl⟩ := storeCreate_ok env stored
  cases ok₅
  exact ⟨rfl, encrypted, _, enc.1, rfl, rfl⟩

/-- A successful `Create` had a client, made the service account and the binding in its
cloud's cluster, and then saved the document from the world they left. -/
theorem create_ok {c : KubeConfigs} {kubeConfig result : KubeConfig} {now : Nat} {w w' : World}
    (ok : create env c kubeConfig now w = (.ok result, w')) :
    c.client = true ∧ ∃ cl cl',
      (w.clusters c.cloud).createServiceAccount kubeConfig.serviceAccount = .ok cl ∧
      cl.createClusterRoleBinding (bindingOf kubeConfig) = .ok cl' ∧
      saveKubeConfig env c kubeConfig now (w.setCluster c.cloud cl') = (.ok result, w') := by
  unfold create at ok
  obtain ⟨_, w₁, checked, ok₁⟩ := Op.bind_ok.mp ok
  obtain ⟨client, rfl⟩ := checkClient_ok checked
  obtain ⟨_, w₂, madeAccount, ok₂⟩ := Op.bind_ok.mp ok₁
  obtain ⟨cl, account, rfl⟩ := call_onCluster_ok madeAccount
  obtain ⟨_, w₃, madeBinding, ok₃⟩ := Op.bind_ok.mp ok₂
  obtain ⟨cl', binding, rfl⟩ := call_onCluster_ok madeBinding
  rw [World.setCluster_same] at binding
  rw [World.setCluster_setCluster] at ok₃
  exact ⟨client, cl, cl', account, binding, ok₃⟩

theorem prepareUpdate_keeps (c : KubeConfigs) (kid : Int) {β : Type} (view : World → β) :
    Op.Keeps view (prepareUpdate env c kid) := by
  unfold prepareUpdate
  refine .bind (checkClient_keeps c _) fun _ => .bind (storeGet_keeps env kid _) fun _ =>
    .bind (Op.keeps_lift _) fun _ => .bind (Op.keeps_lift _) fun _ =>
      .bind (createToken_keeps env _ _ _) fun _ => ?_
  split
  · exact .bind (Op.keeps_lift _) fun _ => .bind (Op.keeps_lift _) fun _ => Op.keeps_pure _
  · exact Op.keeps_throw _

/-- A successful `prepareUpdate` had a client, read the record it returns, had a token issued
by its cloud's cluster for the record's service account, and encrypted the document it
returns. -/
theorem prepareUpdate_ok {c : KubeConfigs} {kid : Int} {w w₁ : World} {pending : PendingUpdate}
    (ok : prepareUpdate env c kid w = (.ok pending, w₁)) :
    c.client = true ∧ w.store.first kid = some pending.obj ∧
      pending.obj.columns.serviceAccount ∈ (w.clusters c.cloud).serviceAccounts ∧
      env.encrypt pending.newConfigByte = .ok pending.encrypted := by
  unfold prepareUpdate at ok
  obtain ⟨_, w₂, checked, ok₁⟩ := Op.bind_ok.mp ok
  obtain ⟨client, rfl⟩ := checkClient_ok checked
  obtain ⟨obj, w₃, read, ok₂⟩ := Op.bind_ok.mp ok₁
  obtain ⟨found, rfl⟩ := storeGet_ok env read
  obtain ⟨_, _, decrypted, ok₃⟩ := Op.bind_ok.mp ok₂
  obtain ⟨config, _, unmarshalled, ok₄⟩ := Op.bind_ok.mp ok₃
  obtain ⟨token, _, issued, ok₅⟩ := Op.bind_ok.mp ok₄
  simp only [Op.lift_apply, Prod.mk.injEq] at decrypted unmarshalled
  obtain ⟨-, rfl⟩ := decrypted
  obtain ⟨-, rfl⟩ := unmarshalled
  obtain ⟨account, rfl⟩ := createToken_ok env issued
  rcases set : config.setSA obj.columns.serviceAccount token.token with _ | _ <;>
    simp only [set] at ok₅
  · cases ok₅
  · obtain ⟨_, _, _, ok₆⟩ := Op.bind_ok.mp ok₅
    obtain ⟨_, _, enc, ok₇⟩ := Op.bind_ok.mp ok₆
    simp only [Op.lift_apply, Prod.mk.injEq] at enc
    cases ok₇
    exact ⟨client, found, account, enc.1⟩

theorem get_keeps (c : KubeConfigs) (kid : Int) {β : Type} (view : World → β) :
    Op.Keeps view (get env c kid) :=
  .bind (checkClient_keeps c _) fun _ => .bind (storeGet_keeps env kid _) fun _ =>
    .bind (Op.keeps_lift _) fun _ => Op.keeps_pure _

theorem list_keeps (c : KubeConfigs) (cloudName : String) {β : Type} (view : World → β) :
    Op.Keeps view (list env c cloudName) :=
  .bind (checkClient_keeps c _) fun _ => .bind (storeList_keeps env cloudName _) fun _ =>
    Op.keeps_lift _

/-- `Get` of a stored record whose document decrypts. -/
theorem get_of_stored {c : KubeConfigs} {kid : Int} {w : World} {obj : Row KubeConfigColumns}
    {configByte : String} (client : c.client = true) (noFault : env.fault .storeGet = none)
    (found : w.store.first kid = some obj)
    (decrypted : env.decrypt obj.columns.config = .ok configByte) :
    get env c kid w = (.ok { model2Type obj with config := configByte }, w) := by
  simp [get, client, storeGet, call, noFault, readStore, found, decrypted]

/-- The loop of `List` returned one decrypted record for each row, and each row's. -/
theorem decryptEach_ok {objs : List (Row KubeConfigColumns)} {result : List KubeConfig}
    (ok : decryptEach env objs = .ok result) :
    (∀ kc ∈ result, ∃ obj ∈ objs, ∃ configByte, env.decrypt obj.columns.config = .ok configByte ∧
      kc = { model2Type obj with config := configByte }) ∧
    ∀ obj ∈ objs, ∃ configByte, env.decrypt obj.columns.config = .ok configByte ∧
      { model2Type obj with config := configByte } ∈ result := by
  induction objs generalizing result with
  | nil => cases ok; simp
  | cons obj rest ih =>
    rcases decrypted : env.decrypt obj.columns.config with _ | configByte <;>
      rcases tail : decryptEach env rest with _ | kcs <;>
      rw [decryptEach, decrypted, tail] at ok <;> cases ok
    obtain ⟨sound, complete⟩ := ih tail
    constructor
    · intro kc mem
      rcases List.mem_cons.mp mem with rfl | mem
      · exact ⟨obj, List.mem_cons_self _ _, configByte, decrypted, rfl⟩
      · obtain ⟨o, oMem, found⟩ := sound kc mem
        exact ⟨o, List.mem_cons_of_mem _ oMem, found⟩
    · intro o mem
      rcases List.mem_cons.mp mem with rfl | mem
      · exact ⟨configByte, decrypted, List.mem_cons_self _ _⟩
      · obtain ⟨b, dec, found⟩ := complete o mem
        exact ⟨b, dec, List.mem_cons_of_mem _ found⟩

/-- A successful `List` changed nothing, and decrypted the rows of the cloud name. -/
theorem list_ok {c : KubeConfigs} {cloudName : String} {w w' : World} {result : List KubeConfig}
    (ok : list env c cloudName w = (.ok result, w')) :
    w' = w ∧ decryptEach env
      ((w.store.find fun obj => obj.columns.cloudName = cloudName).map Prod.snd) = .ok result := by
  unfold list at ok
  obtain ⟨_, w₁, checked, ok₁⟩ := Op.bind_ok.mp ok
  obtain ⟨-, rfl⟩ := checkClient_ok checked
  obtain ⟨objs, w₂, listed, ok₂⟩ := Op.bind_ok.mp ok₁
  have read := call_ok listed
  simp only [readStore, Prod.mk.injEq, Except.ok.injEq] at read
  obtain ⟨rfl, rfl⟩ := read
  simp only [Op.lift_apply, Prod.mk.injEq] at ok₂
  exact ⟨ok₂.2.symm, ok₂.1⟩

/-! ### Concrete worlds -/

/-- An environment for concrete runs: the identity cipher and base64, a yaml that writes only
the current context, tokens named after their service account, and no call failing for an
outside reason. -/
def plainEnv : Env where
  encrypt := .ok
  decrypt := .ok
  marshal := fun c => .ok c.currentContext
  unmarshal := fun _ c => .ok c
  base64 := id
  issueToken := fun saName => ⟨saName ++ "-token", "E1"⟩
  fault := fun _ => none

/-- A record of the cloud `b`, for the service account `sa-b`. -/
def recordOfB : Row KubeConfigColumns := ⟨⟨0, 0, 0⟩, ⟨"b", "sa-b", "view", "doc", "E0"⟩⟩

/-- A cluster with the service account `sa-b` bound to `view`. -/
def clusterOfB : Cluster := ⟨["sa-b"], [⟨"sa-b", "sa-b", "view"⟩], some "ca"⟩

/-- Clouds whose clusters have no service account, but for the cloud `b`'s, `clusterOfB`, and a
store holding `recordOfB` under key `1`. -/
def worldOfB : World :=
  ⟨Function.update (fun _ => ⟨[], [], some "ca"⟩) "b" clusterOfB,
    (Table.empty.create recordOfB).2⟩

/-- A cluster with no service account and one binding, named `ci`. -/
def clusterWithBindingCi : Cluster := ⟨[], [⟨"ci", "other", "edit"⟩], some "ca"⟩

/-! ## Part 3 — a failed operation keeps the store, not the cluster -/

theorem create_keepsOnError (c : KubeConfigs) (kubeConfig : KubeConfig) (now : Nat) :
    Op.KeepsOnError World.store (create env c kubeConfig now) :=
  .bind (checkClient_keeps c _) fun _ =>
    .bind (createServiceAccount_keeps_store env _ _) fun _ =>
      .bind (createClusterRoleBinding_keeps_store env _ _) fun _ =>
        saveKubeConfig_keepsOnError c kubeConfig now

theorem delete_keepsOnError (c : KubeConfigs) (kid : Int) :
    Op.KeepsOnError World.store (delete env c kid) :=
  .bind (checkClient_keeps c _) fun _ => .bind (storeGet_keeps env kid _) fun _ =>
    .bind (deleteClusterRoleBinding_keeps_store env _ _) fun _ =>
      .bind (deleteServiceAccount_keeps_store env _ _) fun _ =>
        (storeDelete_keepsOnError env kid).ofId _

/-- `Create` reaches no cluster but its own cloud's. -/
theorem create_keeps_other (c : KubeConfigs) (kubeConfig : KubeConfig) (now : Nat)
    {other : String} (different : other ≠ c.cloud) :
    Op.Keeps (fun w => w.clusters other) (create env c kubeConfig now) :=
  .bind (checkClient_keeps c _) fun _ =>
    .bind (createServiceAccount_keeps_other env different _) fun _ =>
      .bind (createClusterRoleBinding_keeps_other env different _) fun _ =>
        fun w r w' run => congrFun (saveKubeConfig_keeps_clusters c kubeConfig now w r w' run) other

/-- `Delete` reaches no cluster but its own cloud's. -/
theorem delete_keeps_other (c : KubeConfigs) (kid : Int) {other : String}
    (different : other ≠ c.cloud) : Op.Keeps (fun w => w.clusters other) (delete env c kid) :=
  .bind (checkClient_keeps c _) fun _ => .bind (storeGet_keeps env kid _) fun _ =>
    .bind (deleteClusterRoleBinding_keeps_other env different _) fun _ =>
      .bind (deleteServiceAccount_keeps_other env different _) fun _ =>
        fun w r w' run => congrFun (storeDelete_keeps_clusters env kid w r w' run) other

/-- What the cluster calls of a `Create` that stopped can have left: nothing, the service
account, or the service account and its binding. -/
def createLeftovers (kubeConfig : KubeConfig) (before after : Cluster) : Prop :=
  after = before ∨
    (before.createServiceAccount kubeConfig.serviceAccount = .ok after) ∨
    ∃ cl, before.createServiceAccount kubeConfig.serviceAccount = .ok cl ∧
      cl.createClusterRoleBinding (bindingOf kubeConfig) = .ok after

/-- What the cluster calls of a `Delete` of the service account `saName` that stopped can have
left: nothing, the binding deleted, or the binding and the service account deleted. -/
def deleteLeftovers (saName : String) (before after : Cluster) : Prop :=
  after = before ∨
    (before.deleteClusterRoleBinding saName = .ok after) ∨
    ∃ cl, before.deleteClusterRoleBinding saName = .ok cl ∧
      cl.deleteServiceAccount saName = .ok after

theorem create_error_cluster {c : KubeConfigs} {kubeConfig : KubeConfig} {now : Nat}
    {w w' : World} {e : Error} (failed : create env c kubeConfig now w = (.error e, w')) :
    createLeftovers kubeConfig (w.clusters c.cloud) (w'.clusters c.cloud) := by
  unfold create at failed
  rcases Op.bind_error.mp failed with failed₁ | ⟨_, w₁, checked, failed₁⟩
  · exact .inl (congrArg (World.clusters · c.cloud) (checkClient_keeps c id w _ w' failed₁))
  obtain ⟨-, rfl⟩ := checkClient_ok checked
  rcases Op.bind_error.mp failed₁ with failed₂ | ⟨_, w₂, madeAccount, failed₂⟩
  · exact .inl (congrArg (World.clusters · c.cloud)
      (createServiceAccount_keepsOnError env _ _ w₁ _ w' failed₂))
  obtain ⟨cl, account, rfl⟩ := call_onCluster_ok madeAccount
  rcases Op.bind_error.mp failed₂ with failed₃ | ⟨_, w₃, madeBinding, failed₃⟩
  · have kept : w'.clusters c.cloud = cl := by
      simpa using congrArg (World.clusters · c.cloud)
        (createClusterRoleBinding_keepsOnError env _ _ _ _ w' failed₃)
    exact .inr (.inl (kept ▸ account))
  obtain ⟨cl', binding, rfl⟩ := call_onCluster_ok madeBinding
  refine .inr (.inr ⟨cl, account, ?_⟩)
  rw [congrFun (saveKubeConfig_keeps_clusters c kubeConfig now _ _ w' failed₃) c.cloud]
  simpa using binding

theorem delete_error_cluster {c : KubeConfigs} {kid : Int} {w w' : World} {e : Error}
    (failed : delete env c kid w = (.error e, w')) :
    w'.clusters c.cloud = w.clusters c.cloud ∨ ∃ obj, w.store.first kid = some obj ∧
      deleteLeftovers obj.columns.serviceAccount (w.clusters c.cloud) (w'.clusters c.cloud) := by
  unfold delete at failed
  rcases Op.bind_error.mp failed with failed₁ | ⟨_, w₁, checked, failed₁⟩
  · exact .inl (congrArg (World.clusters · c.cloud) (checkClient_keeps c id w _ w' failed₁))
  obtain ⟨-, rfl⟩ := checkClient_ok checked
  rcases Op.bind_error.mp failed₁ with failed₂ | ⟨obj, w₂, read, failed₂⟩
  · exact .inl (congrArg (World.clusters · c.cloud) (storeGet_keeps env kid id w₁ _ w' failed₂))
  obtain ⟨found, rfl⟩ := storeGet_ok env read
  refine .inr ⟨obj, found, ?_⟩
  rcases Op.bind_error.mp failed₂ with failed₃ | ⟨_, w₃, deletedBinding, failed₃⟩
  · exact .inl (congrArg (World.clusters · c.cloud)
      (deleteClusterRoleBinding_keepsOnError env _ _ _ _ w' failed₃))
  obtain ⟨cl, binding, rfl⟩ := call_onCluster_ok deletedBinding
  rcases Op.bind_error.mp failed₃ with failed₄ | ⟨_, w₄, deletedAccount, failed₄⟩
  · have kept : w'.clusters c.cloud = cl := by
      simpa using congrArg (World.clusters · c.cloud)
        (deleteServiceAccount_keepsOnError env _ _ _ _ w' failed₄)
    exact .inr (.inl (kept ▸ binding))
  obtain ⟨cl', account, rfl⟩ := call_onCluster_ok deletedAccount
  refine .inr (.inr ⟨cl, binding, ?_⟩)
  rw [congrFun (storeDelete_keeps_clusters env kid _ _ w' failed₄) c.cloud]
  simpa using account

/-- **A failed `Create` or `Delete` leaves the store as it was, and rolls back no cluster
call.** Every store write is the operation's last call, so a failure leaves the kubeconfig table
unchanged, and the clusters of the other clouds are never reached; but the cluster of the cloud
the operation runs through keeps what the calls before the failing one did: a `Create` that
fails after making the service account (or also its binding) leaves it, and a `Delete` that
fails after deleting the binding (or also the service account) does not restore it. -/
theorem kubeConfigs_error_effects (env : Env) (c : KubeConfigs) :
    (∀ kubeConfig now w e w', create env c kubeConfig now w = (.error e, w') →
      w'.store = w.store ∧
      createLeftovers kubeConfig (w.clusters c.cloud) (w'.clusters c.cloud) ∧
      ∀ other, other ≠ c.cloud → w'.clusters other = w.clusters other) ∧
    (∀ kid w e w', delete env c kid w = (.error e, w') →
      w'.store = w.store ∧
      (w'.clusters c.cloud = w.clusters c.cloud ∨ ∃ obj, w.store.first kid = some obj ∧
        deleteLeftovers obj.columns.serviceAccount (w.clusters c.cloud) (w'.clusters c.cloud)) ∧
      ∀ other, other ≠ c.cloud → w'.clusters other = w.clusters other) :=
  ⟨fun kubeConfig now w e w' failed =>
    ⟨create_keepsOnError c kubeConfig now w e w' failed, create_error_cluster failed,
      fun _ different => create_keeps_other c kubeConfig now different w _ w' failed⟩,
   fun kid w e w' failed =>
    ⟨delete_keepsOnError c kid w e w' failed, delete_error_cluster failed,
      fun _ different => delete_keeps_other c kid different w _ w' failed⟩⟩

/-- A `Create` for the service account `ci` through a cloud whose cluster already has a binding
named `ci` fails at the binding, and leaves the service account it made. -/
theorem create_leaves_service_account :
    (create plainEnv ⟨true, "a"⟩ ⟨"", "ci", "view", "", ""⟩ 5
        ⟨fun _ => clusterWithBindingCi, Table.empty⟩).1 = .error (.alreadyExists "ci") ∧
      clusterWithBindingCi.serviceAccounts = [] ∧
      ((create plainEnv ⟨true, "a"⟩ ⟨"", "ci", "view", "", ""⟩ 5
        ⟨fun _ => clusterWithBindingCi, Table.empty⟩).2.clusters "a").serviceAccounts =
        ["ci"] := by
  decide

/-- **A successful `Delete` removed the record, its binding and its service account.** It read
record `kid`, deleted the cluster role binding named after the record's service account and
then that service account from the cluster of the cloud it runs through, and deleted row `kid`
and no other. -/
theorem delete_ok {c : KubeConfigs} {kid : Int} {w w' : World} {u : Unit}
    (ok : delete env c kid w = (.ok u, w')) :
    ∃ obj, w.store.first kid = some obj ∧ w'.store = w.store.delete kid ∧
      ∃ cl cl', (w.clusters c.cloud).deleteClusterRoleBinding obj.columns.serviceAccount = .ok cl ∧
        cl.deleteServiceAccount obj.columns.serviceAccount = .ok cl' ∧
        w'.clusters = (w.setCluster c.cloud cl').clusters := by
  unfold delete at ok
  obtain ⟨_, w₁, checked, ok₁⟩ := Op.bind_ok.mp ok
  obtain ⟨-, rfl⟩ := checkClient_ok checked
  obtain ⟨obj, w₂, read, ok₂⟩ := Op.bind_ok.mp ok₁
  obtain ⟨found, rfl⟩ := storeGet_ok env read
  obtain ⟨_, w₃, deletedBinding, ok₃⟩ := Op.bind_ok.mp ok₂
  obtain ⟨cl, binding, rfl⟩ := call_onCluster_ok deletedBinding
  obtain ⟨_, w₄, deletedAccount, ok₄⟩ := Op.bind_ok.mp ok₃
  obtain ⟨cl', account, rfl⟩ := call_onCluster_ok deletedAccount
  obtain ⟨store, deleted, rfl⟩ := onStore_ok (call_ok ok₄)
  cases deleted
  exact ⟨obj, found, rfl, cl, cl', binding, by simpa using account, by simp⟩

/-- A `Delete` through a cloud whose cluster has no binding named after the record's service
account fails there, `NotFound`, having changed nothing. -/
theorem delete_of_missing_binding {c : KubeConfigs} {kid : Int} {w : World}
    {obj : Row KubeConfigColumns} (client : c.client = true)
    (noGet : env.fault .storeGet = none) (noDelete : env.fault .deleteClusterRoleBinding = none)
    (found : w.store.first kid = some obj)
    (missing : obj.columns.serviceAccount ∉ (w.clusters c.cloud).clusterRoleBindings.map (·.name)) :
    delete env c kid w = (.error (.notFound obj.columns.serviceAccount), w) := by
  simp [delete, client, storeGet, deleteClusterRoleBinding, call, noGet, noDelete, readStore,
    found, onCluster, Cluster.deleteClusterRoleBinding_of_missing missing]

/-! ## Part 4 — records are addressed by their id -/

/-- A successful `Create` returned a document of its cloud, and stored it, encrypted, under a
key no record had. -/
theorem create_ok_stored {c : KubeConfigs} {kubeConfig result : KubeConfig} {now : Nat}
    {w w' : World} (ok : create env c kubeConfig now w = (.ok result, w')) :
    result.cloudName = c.cloud ∧ w.store.first w.store.autoIncrement = none ∧
      ∃ encrypted row, env.encrypt result.config = .ok encrypted ∧
        row.columns = { (type2Model result).columns with config := encrypted } ∧
        w'.store.first w.store.autoIncrement = some row := by
  obtain ⟨-, _, _, -, -, saved⟩ := create_ok ok
  obtain ⟨shape, encrypted, row, enc, columns, rfl⟩ := saveKubeConfig_ok saved
  exact ⟨congrArg KubeConfig.cloudName shape, Table.first_create_key _ row, encrypted, row, enc,
    columns, Table.first_create_self _ row⟩

/-- A successful `Update` found the record, and the cluster of the cloud it runs through has the
record's service account: the token comes from that cluster, whichever cloud the record is of. -/
theorem update_ok_account {c : KubeConfigs} {kid : Int} {now : Nat} {w w' : World}
    {result : KubeConfig} (ok : update env c kid now w = (.ok result, w')) :
    ∃ obj, w.store.first kid = some obj ∧
      obj.columns.serviceAccount ∈ (w.clusters c.cloud).serviceAccounts := by
  obtain ⟨pending, _, prepared, -⟩ := Op.bind_ok.mp ok
  obtain ⟨-, found, account, -⟩ := prepareUpdate_ok prepared
  exact ⟨pending.obj, found, account⟩

/-- An `Update` through a cloud whose cluster lacks the record's service account fails at the
token request, `NotFound`, having changed nothing. -/
theorem update_of_missing_account {c : KubeConfigs} {kid : Int} {now : Nat} {w : World}
    {obj : Row KubeConfigColumns} {configByte : String} {config : Kubeconfig}
    (client : c.client = true) (noGet : env.fault .storeGet = none)
    (noToken : env.fault .createToken = none) (found : w.store.first kid = some obj)
    (decrypted : env.decrypt obj.columns.config = .ok configByte)
    (unmarshalled : env.unmarshal configByte newConfig = .ok config)
    (missing : obj.columns.serviceAccount ∉ (w.clusters c.cloud).serviceAccounts) :
    update env c kid now w = (.error (.notFound obj.columns.serviceAccount), w) := by
  simp [update, prepareUpdate, client, storeGet, createToken, call, noGet, noToken, readStore,
    found, decrypted, unmarshalled, readCluster, missing]

/-- **Records are addressed by their id alone, and acted on through the caller's cluster.**
`Get` reads nothing of `kubeConfigs` but whether the cloud has a client, so through any cloud
with a client it returns any stored record, whichever cloud the record belongs to. `Update` and
`Delete` find the record by its id alone too, but make their cluster calls, with the record's
service account name, through the cluster of the cloud they run through: a successful `Update`
had that cluster issue the token, and fails `NotFound` when that cluster lacks the account; a
successful `Delete` removed the binding and the account from that cluster, and fails `NotFound`
when that cluster lacks the binding. `List` returns exactly the records of the name it is
given, and `Create` stamps its record with the cloud it runs through. -/
theorem kubeConfigs_addressed_by_id (env : Env) :
    (∀ c c' : KubeConfigs, c.client = c'.client → get env c = get env c') ∧
    (∀ c kid w obj configByte, c.client = true → env.fault .storeGet = none →
      w.store.first kid = some obj → env.decrypt obj.columns.config = .ok configByte →
      get env c kid w = (.ok { model2Type obj with config := configByte }, w)) ∧
    (∀ c kid now w result w', update env c kid now w = (.ok result, w') →
      ∃ obj, w.store.first kid = some obj ∧
        obj.columns.serviceAccount ∈ (w.clusters c.cloud).serviceAccounts) ∧
    (∀ c kid now w obj configByte config, c.client = true → env.fault .storeGet = none →
      env.fault .createToken = none → w.store.first kid = some obj →
      env.decrypt obj.columns.config = .ok configByte →
      env.unmarshal configByte newConfig = .ok config →
      obj.columns.serviceAccount ∉ (w.clusters c.cloud).serviceAccounts →
      update env c kid now w = (.error (.notFound obj.columns.serviceAccount), w)) ∧
    (∀ c kid w u w', delete env c kid w = (.ok u, w') →
      ∃ obj, w.store.first kid = some obj ∧ w'.store = w.store.delete kid ∧
        ∃ cl cl',
          (w.clusters c.cloud).deleteClusterRoleBinding obj.columns.serviceAccount = .ok cl ∧
          cl.deleteServiceAccount obj.columns.serviceAccount = .ok cl' ∧
          w'.clusters = (w.setCluster c.cloud cl').clusters) ∧
    (∀ c kid w obj, c.client = true → env.fault .storeGet = none →
      env.fault .deleteClusterRoleBinding = none → w.store.first kid = some obj →
      obj.columns.serviceAccount ∉ (w.clusters c.cloud).clusterRoleBindings.map (·.name) →
      delete env c kid w = (.error (.notFound obj.columns.serviceAccount), w)) ∧
    (∀ c cloudName w w' result, list env c cloudName w = (.ok result, w') →
      (∀ kc ∈ result, kc.cloudName = cloudName) ∧
      ∀ kid obj, w.store.first kid = some obj → obj.columns.cloudName = cloudName →
        ∃ configByte, env.decrypt obj.columns.config = .ok configByte ∧
          { model2Type obj with config := configByte } ∈ result) ∧
    (∀ c kubeConfig now w w' result, create env c kubeConfig now w = (.ok result, w') →
      result.cloudName = c.cloud ∧ ∃ row, w'.store.first w.store.autoIncrement = some row ∧
        row.columns.cloudName = c.cloud) := by
  refine ⟨?_, fun _ _ _ _ _ => get_of_stored, fun _ _ _ _ _ _ => update_ok_account,
    fun _ _ _ _ _ _ _ => update_of_missing_account, fun _ _ _ _ _ => delete_ok,
    fun _ _ _ _ => delete_of_missing_binding, ?_, ?_⟩
  · rintro ⟨_, _⟩ ⟨_, _⟩ rfl
    rfl
  · intro c cloudName w w' result listed
    obtain ⟨-, decrypted⟩ := list_ok listed
    obtain ⟨sound, complete⟩ := decryptEach_ok decrypted
    refine ⟨fun kc mem => ?_, fun kid obj found named => complete obj ?_⟩
    · obtain ⟨obj, objMem, _, -, rfl⟩ := sound kc mem
      obtain ⟨⟨_, _⟩, entry, rfl⟩ := List.mem_map.mp objMem
      simpa [model2Type] using (Table.mem_find.mp entry).2
    · exact List.mem_map.mpr ⟨(kid, obj), Table.mem_find.mpr ⟨found, by simpa using named⟩, rfl⟩
  · intro c kubeConfig now w w' result created
    obtain ⟨cloud, -, _, row, -, columns, found⟩ := create_ok_stored created
    exact ⟨cloud, row, found, by rw [columns]; exact cloud⟩

/-- Through the cloud `a`, `Get` returns the record of the cloud `b`; `Delete` of it fails
`NotFound` while the cluster of `a` has no binding `sa-b`, and once that cluster has its own
`sa-b`, succeeds, removing the record and the cloud `a`'s service account, not the cloud
`b`'s. -/
theorem get_delete_other_cloud :
    (get plainEnv ⟨true, "a"⟩ 1 worldOfB).1 = .ok ⟨"b", "sa-b", "view", "doc", "E0"⟩ ∧
      (delete plainEnv ⟨true, "a"⟩ 1 worldOfB).1 = .error (.notFound "sa-b") ∧
      (delete plainEnv ⟨true, "a"⟩ 1 (worldOfB.setCluster "a" clusterOfB)).1 = .ok () ∧
      ((delete plainEnv ⟨true, "a"⟩ 1 (worldOfB.setCluster "a" clusterOfB)).2.store.first
        1).isNone = true ∧
      ((delete plainEnv ⟨true, "a"⟩ 1 (worldOfB.setCluster "a" clusterOfB)).2.clusters
        "a").serviceAccounts = [] ∧
      (delete plainEnv ⟨true, "a"⟩ 1 (worldOfB.setCluster "a" clusterOfB)).2.clusters "b" =
        clusterOfB := by
  decide

end KubeConfigs

end Pixiu.Core
