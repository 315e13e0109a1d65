/-
**The kubeconfig document `kubeConfigs.Create` builds and `kubeConfigs.Update` rebuilds.**

`newConfig` makes a document with one cluster, one context and one user; `setServer` and `setCA`
fill the cluster's `server` and `certificate-authority-data`, `setSA` the context's `user`, the
user's `name` and its `token`. A kubeconfig is sound when its current context names one of its
contexts, and that context's `cluster` and `user` fields name a cluster and a user of the
document (`Kubeconfig.Consistent`).

* `buildConfig_eq` — the document `Create` builds, field by field;
* `setSA_clusterRefs` — `setSA` writes no cluster and no context's `cluster` field;
* `kubeconfig_context_cluster_unset` — `newConfig` names the cluster and the context
  `kubernetes`, but leaves the context's `cluster` field empty and no setter writes it: the
  document `Create` builds, and every one `setSA` rebuilds from it, refers to no cluster. The
  current context and the user reference are sound.

A setter indexes element `0` of a slice, which panics on an empty one: the setters return
`none` there.
-/

import Pixiu.Basic

namespace Pixiu.Core

/-- The `cluster` of a `kubeconfig_cluster`. -/
structure ClusterInfo where
  server : String := ""
  certificateAuthorityData : String := ""
deriving DecidableEq, Repr

/-- `kubeconfig_cluster`. -/
structure KubeconfigCluster where
  name : String
  cluster : ClusterInfo := {}
deriving DecidableEq, Repr

/-- The `context` of a `kubeconfig_context`. -/
structure ContextInfo where
  cluster : String := ""
  user : String := ""
deriving DecidableEq, Repr

/-- `kubeconfig_context`. -/
structure KubeconfigContext where
  name : String
  context : ContextInfo := {}
deriving DecidableEq, Repr

/-- The `user` of a `kubeconfig_user`. -/
structure UserInfo where
  token : String := ""
deriving DecidableEq, Repr

/-- `kubeconfig_user`. -/
structure KubeconfigUser where
  name : String
  user : UserInfo := {}
deriving DecidableEq, Repr

/-- `kubeconfig`: the document marshalled to yaml. -/
structure Kubeconfig where
  apiVersion : String
  kind : String
  currentContext : String
  clusters : List KubeconfigCluster
  contexts : List KubeconfigContext
  users : List KubeconfigUser
deriving DecidableEq, Repr

/-- `newConfig`. -/
def newConfig : Kubeconfig where
  apiVersion := "v1"
  kind := "Config"
  currentContext := "kubernetes"
  contexts := [{ name := "kubernetes" }]
  clusters := [{ name := "kubernetes" }]
  users := [{ name := "" }]

/-- `s[0]` rewritten by `f`; `none` where Go panics on an empty slice. -/
def modifyFirst {α : Type} (f : α → α) : List α → Option (List α)
  | [] => none
  | x :: rest => some (f x :: rest)

namespace Kubeconfig

/-- `kubeconfig.setServer`. -/
def setServer (c : Kubeconfig) (server : String) : Option Kubeconfig := do
  let clusters ← modifyFirst (fun cl => { cl with cluster.server := server }) c.clusters
  return { c with clusters }

/-- `kubeconfig.setCA`. -/
def setCA (c : Kubeconfig) (ca : String) : Option Kubeconfig := do
  let clusters ←
    modifyFirst (fun cl => { cl with cluster.certificateAuthorityData := ca }) c.clusters
  return { c with clusters }

/-- `kubeconfig.setSA`. -/
def setSA (c : Kubeconfig) (saName saToken : String) : Option Kubeconfig := do
  let contexts ← modifyFirst (fun ctx => { ctx with context.user := saName }) c.contexts
  let users ← modifyFirst (fun u => { u with name := saName, user.token := saToken }) c.users
  return { c with contexts, users }

/-- The current context names a context of the document, whose `cluster` names a cluster with
the given server and CA data, and whose `user` names a user with the given token. -/
def Consistent (c : Kubeconfig) (server ca token : String) : Prop :=
  ∃ ctx ∈ c.contexts, ctx.name = c.currentContext ∧
    (∃ cl ∈ c.clusters, cl.name = ctx.context.cluster ∧ cl.cluster.server = server ∧
      cl.cluster.certificateAuthorityData = ca) ∧
    (∃ u ∈ c.users, u.name = ctx.context.user ∧ u.user.token = token)

end Kubeconfig

/-- The document `kubeConfigs.Create` builds: `newConfig`, then `setServer`, `setCA`, `setSA`. -/
def buildConfig (server ca saName saToken : String) : Option Kubeconfig := do
  let c ← newConfig.setServer server
  let c ← c.setCA ca
  c.setSA saName saToken

/-- The document `Create` builds, field by field. -/
theorem buildConfig_eq (server ca saName saToken : String) :
    buildConfig server ca saName saToken = some
      { apiVersion := "v1", kind := "Config", currentContext := "kubernetes",
        clusters :=
          [{ name := "kubernetes", cluster := { server, certificateAuthorityData := ca } }],
        contexts := [{ name := "kubernetes", context := { cluster := "", user := saName } }],
        users := [{ name := saName, user := { token := saToken } }] } := rfl

/-- `setSA` writes no cluster and no context's `cluster` field, and keeps the current context
and the context names. -/
theorem Kubeconfig.setSA_clusterRefs {c c' : Kubeconfig} {saName saToken : String}
    (set : c.setSA saName saToken = some c') :
    c'.clusters = c.clusters ∧ c'.currentContext = c.currentContext ∧
      c'.contexts.map (fun ctx => (ctx.name, ctx.context.cluster)) =
        c.contexts.map (fun ctx => (ctx.name, ctx.context.cluster)) := by
  unfold setSA at set
  rcases contexts : c.contexts with _ | ⟨ctx, rest⟩ <;>
    rcases users : c.users with _ | ⟨u, others⟩ <;>
    simp [contexts, users, modifyFirst] at set
  subst set
  simp [contexts]

/-- No context named `name` in the document refers to a cluster of the document. -/
def Kubeconfig.DanglingCluster (c : Kubeconfig) (name : String) : Prop :=
  ∀ ctx ∈ c.contexts, ctx.name = name → ∀ cl ∈ c.clusters, cl.name ≠ ctx.context.cluster

/-- The document `Create` builds: its current context refers to no cluster. -/
theorem buildConfig_dangling {server ca saName saToken : String} {c : Kubeconfig}
    (built : buildConfig server ca saName saToken = some c) :
    c.DanglingCluster c.currentContext := by
  rw [buildConfig_eq] at built
  cases built
  simp [Kubeconfig.DanglingCluster]

/-- A document whose current context refers to no cluster is not sound, whatever the server,
CA data and token. -/
theorem Kubeconfig.not_consistent_of_dangling {c : Kubeconfig}
    (dangling : c.DanglingCluster c.currentContext) (server ca token : String) :
    ¬ c.Consistent server ca token := by
  rintro ⟨ctx, mem, named, ⟨cl, mem', refers, -⟩, -⟩
  exact dangling ctx mem named cl mem' refers

/-- `setSA` keeps a dangling cluster reference dangling. -/
theorem Kubeconfig.setSA_dangling {c c' : Kubeconfig} {saName saToken : String}
    (set : c.setSA saName saToken = some c') (dangling : c.DanglingCluster c.currentContext) :
    c'.DanglingCluster c'.currentContext := by
  obtain ⟨clusters, current, refs⟩ := setSA_clusterRefs set
  intro ctx mem named cl mem' refers
  have : (ctx.name, ctx.context.cluster) ∈ c.contexts.map
      (fun ctx => (ctx.name, ctx.context.cluster)) := refs ▸ List.mem_map_of_mem _ mem
  obtain ⟨old, oldMem, same⟩ := List.mem_map.mp this
  simp only [Prod.mk.injEq] at same
  exact dangling old oldMem (same.1.trans (named.trans current)) cl (clusters ▸ mem')
    (refers.trans same.2.symm)

/-- **The context of the document `Create` builds names no cluster, and `setSA` does not mend
it.** For every server, CA data, service account and token, the built document's current context
is `kubernetes` and its user reference names the user carrying the token, but its `cluster`
field is empty while the only cluster is `kubernetes`: the document is not sound, and neither is
any document `setSA` makes from it, as `Update` does after decoding it. -/
theorem kubeconfig_context_cluster_unset (server ca saName saToken : String) :
    ∃ c, buildConfig server ca saName saToken = some c ∧
      (∃ ctx ∈ c.contexts, ctx.name = c.currentContext ∧
        ∃ u ∈ c.users, u.name = ctx.context.user ∧ u.user.token = saToken) ∧
      ¬ c.Consistent server ca saToken ∧
      ∀ saName' saToken' c', c.setSA saName' saToken' = some c' →
        ∀ server' ca', ¬ c'.Consistent server' ca' saToken' := by
  have dangling := buildConfig_dangling (buildConfig_eq server ca saName saToken)
  refine ⟨_, buildConfig_eq server ca saName saToken, by simp,
    Kubeconfig.not_consistent_of_dangling dangling _ _ _, fun _ _ _ set _ _ => ?_⟩
  exact Kubeconfig.not_consistent_of_dangling (Kubeconfig.setSA_dangling set dangling) _ _ _

end Pixiu.Core
