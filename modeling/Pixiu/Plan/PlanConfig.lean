/-
**The plan controller's configs: `CreateConfig`, `DeleteConfig`, `GetConfig`.**

A plan has a config: its Kubernetes, network and runtime specs, each stored marshalled, in a
row of `model.Config` that carries the plan's id. `CreateConfig(pid, req)` checks that plan
`pid` has no config yet (`preCreateConfig`), builds the row from the request
(`makePlanConfig`) and stores it; `DeleteConfig(pid, cfgId)` deletes config `cfgId`;
`GetConfig(pid, cfgId)` reads plan `pid`'s config back through `modelConfig2Type`.

The plan DAO is not in the source. Its `GetConfigByPlan` is gorm's
`Where("plan_id = ?").First(&object)`, which fails with record-not-found when the plan has no
config (`preCreateConfig` reads a nil error as "exists"); `CreatConfig` and `DeleteConfig` are
`tenant.Create` and `tenant.Delete` on the config table.

* `createConfig_eq` — `CreateConfig` is its check followed by its write (`writeConfig`);
* `makePlanConfig_ok` — the row built from a request holds its `PlanId` and its marshalled
  specs, and every other column at its zero value;
* `writeConfig_ok` — a write stores, under a fresh key, the row of the request's `PlanId`;
* `deleteConfig_eq` — `DeleteConfig(pid, cfgId)` deletes row `cfgId`, whatever `pid`.
-/

import Pixiu.Db.Table

namespace Pixiu.Plan

open Pixiu.Db

/-- A spec's `Marshal` and `Unmarshal` (into the zero value). -/
structure Codec (α : Type) where
  marshal : α → Except Error String
  unmarshal : String → Except Error α

/-- A spec's `Unmarshal` undoes its `Marshal`. -/
def Codec.RoundTrip {α : Type} (codec : Codec α) : Prop :=
  ∀ value blob, codec.marshal value = .ok blob → codec.unmarshal blob = .ok value

/-- `types.CreatePlanConfigRequest`, by the fields the controller reads. `Name` is read only by
the log line of a failed create. -/
structure CreatePlanConfigRequest (K N R : Type) where
  planId : Int
  name : String
  kubernetes : K
  network : N
  runtime : R
deriving DecidableEq, Repr

/-- The columns of `model.Config` besides `pixiu.Model`. -/
structure ConfigColumns where
  planId : Int
  name : String := ""
  region : String := ""
  description : String := ""
  kubernetes : String
  network : String
  runtime : String
deriving DecidableEq, Repr

/-- `types.PlanConfig`. -/
structure PlanConfig (K N R : Type) where
  id : Int
  resourceVersion : BitVec 64
  gmtCreate : Nat
  gmtModified : Nat
  planId : Int
  name : String
  region : String
  description : String
  kubernetes : K
  network : N
  runtime : R
deriving DecidableEq, Repr

/-- The plan DAO's calls. -/
inductive PlanCall where
  | getConfigByPlan | creatConfig | deleteConfig
deriving DecidableEq, Repr

/-- What the plan controller calls outside the model: the specs' codecs, and which DAO calls
fail for reasons outside the model (the database), with their error. -/
structure PlanEnv (K N R : Type) where
  kubernetes : Codec K
  network : Codec N
  runtime : Codec R
  fault : PlanCall → Option Error

/-- The config table. -/
abbrev Configs := Table (Row ConfigColumns)

/-- A row's plan id. -/
def planOf (row : Row ConfigColumns) : Int := row.columns.planId

namespace PlanEnv

variable {K N R : Type} (env : PlanEnv K N R)

/-! ## Part 1 — the DAO -/

/-- A DAO call: its outside failure, or its body. -/
def call {α : Type} (c : PlanCall) (body : Op Configs Error α) : Op Configs Error α := fun t =>
  match env.fault c with
  | some e => (.error e, t)
  | none => body t

/-- `GetConfigByPlan`: `Where("plan_id = ?", planId).First(&object)`, the row of least key. -/
def getConfigByPlan (planId : Int) : Op Configs Error (Int × Row ConfigColumns) :=
  env.call .getConfigByPlan fun t =>
    match t.firstWhere fun row => planOf row = planId with
    | some found => (.ok found, t)
    | none => (.error .recordNotFound, t)

/-- `CreatConfig`: `tenant.Create` on the config table, both times stamped. -/
def creatConfig (object : Row ConfigColumns) (now : Nat) : Op Configs Error Int :=
  env.call .creatConfig fun t =>
    let (id, t') := t.create { object with pixiu.gmtCreate := now, pixiu.gmtModified := now }
    (.ok id, t')

/-- `DeleteConfig`: `tenant.Delete` on the config table; a missing row is no error. -/
def deleteConfigRow (cfgId : Int) : Op Configs Error Unit :=
  env.call .deleteConfig fun t => (.ok (), t.delete cfgId)

/-! ## Part 2 — the controller -/

/-- `plan.preCreateConfig`: any error of `GetConfigByPlan` reads as "no config". -/
def preCreateConfig (planId : Int) : Op Configs Error Unit := fun t =>
  match env.getConfigByPlan planId t with
  | (.ok _, t') => (.error (.message s!"plan({planId}) 配置已存在"), t')
  | (.error _, t') => (.ok (), t')

/-- `plan.makePlanConfig`: the three specs marshalled, and the request's `PlanId`. -/
def makePlanConfig (req : CreatePlanConfigRequest K N R) : Except Error (Row ConfigColumns) := do
  let kubeConfig ← env.kubernetes.marshal req.kubernetes
  let networkConfig ← env.network.marshal req.network
  let runtimeConfig ← env.runtime.marshal req.runtime
  return ⟨⟨0, 0, 0⟩,
    { planId := req.planId
      kubernetes := kubeConfig
      network := networkConfig
      runtime := runtimeConfig }⟩

/-- `CreateConfig` after its check: build the row and store it. -/
def writeConfig (req : CreatePlanConfigRequest K N R) (now : Nat) : Op Configs Error Int := do
  let planConfig ← Op.lift (env.makePlanConfig req)
  env.creatConfig planConfig now

/-- `plan.CreateConfig`. -/
def createConfig (pid : Int) (req : CreatePlanConfigRequest K N R) (now : Nat) :
    Op Configs Error Unit := do
  env.preCreateConfig pid
  let _ ← env.writeConfig req now

/-- `plan.DeleteConfig`: any error of the DAO becomes `ErrServerInternal`. -/
def deleteConfig (_pid cfgId : Int) : Op Configs Error Unit := fun t =>
  match env.deleteConfigRow cfgId t with
  | (.error _, t') => (.error .serverInternal, t')
  | result => result

/-- `plan.modelConfig2Type`. -/
def modelConfig2Type (id : Int) (o : Row ConfigColumns) : Except Error (PlanConfig K N R) := do
  let ks ← env.kubernetes.unmarshal o.columns.kubernetes
  let ns ← env.network.unmarshal o.columns.network
  let rs ← env.runtime.unmarshal o.columns.runtime
  let config : PlanConfig K N R :=
    { id
      resourceVersion := o.pixiu.resourceVersion
      gmtCreate := o.pixiu.gmtCreate
      gmtModified := o.pixiu.gmtModified
      planId := o.columns.planId
      name := o.columns.name
      region := o.columns.region
      description := o.columns.description
      kubernetes := ks
      network := ns
      runtime := rs }
  return config

/-- `plan.GetConfig`: plan `pid`'s config, whatever `cfgId`. -/
def getConfig (pid _cfgId : Int) : Op Configs Error (PlanConfig K N R) := fun t =>
  match env.getConfigByPlan pid t with
  | (.ok (id, object), t') => (env.modelConfig2Type id object, t')
  | (.error _, t') => (.error .serverInternal, t')

/-! ## Part 3 — what each call does -/

variable {env}

theorem call_ok {α : Type} {c : PlanCall} {body : Op Configs Error α} {t t' : Configs} {a : α}
    (ok : env.call c body t = (.ok a, t')) : env.fault c = none ∧ body t = (.ok a, t') := by
  unfold call at ok
  split at ok
  · cases ok
  · exact ⟨‹_›, ok⟩

theorem getConfigByPlan_keeps (planId : Int) :
    Op.Keeps id (env.getConfigByPlan planId) := by
  intro t r t' run
  unfold getConfigByPlan call at run
  split at run
  · cases run; rfl
  · dsimp only at run
    split at run <;> cases run <;> rfl

/-- Unless it fails for an outside reason, `GetConfigByPlan` is `First` by plan. -/
theorem getConfigByPlan_eq (noFault : env.fault .getConfigByPlan = none) (planId : Int)
    (t : Configs) : env.getConfigByPlan planId t =
      match t.firstWhere fun row => planOf row = planId with
      | some found => (.ok found, t)
      | none => (.error .recordNotFound, t) := by
  unfold getConfigByPlan call
  rw [noFault]

/-- What `GetConfigByPlan` finds is a stored row of the plan. -/
theorem getConfigByPlan_ok {planId id : Int} {t t' : Configs} {row : Row ConfigColumns}
    (ok : env.getConfigByPlan planId t = (.ok (id, row), t')) :
    t.first id = some row ∧ planOf row = planId := by
  obtain ⟨-, found⟩ := call_ok ok
  split at found
  · next first =>
    cases found
    obtain ⟨stored, sat⟩ := Table.firstWhere_some first
    exact ⟨stored, of_decide_eq_true sat⟩
  · cases found

/-- Unless it fails for an outside reason, `GetConfigByPlan` fails exactly when the plan has no
config. -/
theorem getConfigByPlan_error_iff (noFault : env.fault .getConfigByPlan = none) (planId : Int)
    (t : Configs) :
    (∃ e, (env.getConfigByPlan planId t).1 = .error e) ↔
      ∀ id row, t.first id = some row → planOf row ≠ planId := by
  rw [getConfigByPlan_eq noFault]
  have absent : t.firstWhere (fun row => planOf row = planId) = none ↔
      ∀ id row, t.first id = some row → planOf row ≠ planId := by
    simp [Table.firstWhere_eq_none]
  rw [← absent]
  rcases t.firstWhere fun row => planOf row = planId with _ | _ <;> simp

theorem preCreateConfig_keeps (planId : Int) : Op.Keeps id (env.preCreateConfig planId) := by
  intro t r t' run
  unfold preCreateConfig at run
  split at run <;> cases run <;> exact getConfigByPlan_keeps planId t _ _ ‹_›

/-- Unless `GetConfigByPlan` fails for an outside reason, the check passes exactly when the plan
has no config. -/
theorem preCreateConfig_ok_iff (noFault : env.fault .getConfigByPlan = none) (planId : Int)
    (t : Configs) :
    (∃ u, (env.preCreateConfig planId t).1 = .ok u) ↔
      ∀ id row, t.first id = some row → planOf row ≠ planId := by
  rw [← getConfigByPlan_error_iff noFault]
  unfold preCreateConfig
  rcases env.getConfigByPlan planId t with ⟨_ | _, _⟩ <;> simp

/-- **`makePlanConfig` succeeds exactly when the three specs marshal**; its row holds the
request's `PlanId` and the marshalled specs, and every other column at its zero value. -/
theorem makePlanConfig_ok {req : CreatePlanConfigRequest K N R} {row : Row ConfigColumns} :
    env.makePlanConfig req = .ok row ↔ ∃ kb nb rb,
      env.kubernetes.marshal req.kubernetes = .ok kb ∧ env.network.marshal req.network = .ok nb ∧
      env.runtime.marshal req.runtime = .ok rb ∧
      row = ⟨⟨0, 0, 0⟩,
        { planId := req.planId, kubernetes := kb, network := nb, runtime := rb }⟩ := by
  unfold makePlanConfig
  rcases env.kubernetes.marshal req.kubernetes with _ | kb <;>
    rcases env.network.marshal req.network with _ | nb <;>
    rcases env.runtime.marshal req.runtime with _ | rb <;>
    simp [bind, Except.bind, pure, Except.pure, eq_comm]

/-- The row `makePlanConfig` builds carries the request's `PlanId`. -/
theorem makePlanConfig_planId {req : CreatePlanConfigRequest K N R} {row : Row ConfigColumns}
    (made : env.makePlanConfig req = .ok row) : planOf row = req.planId := by
  obtain ⟨_, _, _, -, -, -, rfl⟩ := makePlanConfig_ok.mp made
  rfl

theorem writeConfig_keepsOnError (req : CreatePlanConfigRequest K N R) (now : Nat) :
    Op.KeepsOnError id (env.writeConfig req now) := by
  refine Op.KeepsOnError.bind (Op.keeps_lift _) fun row => ?_
  intro t e t' run
  unfold creatConfig call at run
  split at run <;> cases run
  rfl

/-- A write stores, under the next key, the row `makePlanConfig` built, both times stamped. -/
theorem writeConfig_stored {req : CreatePlanConfigRequest K N R} {now : Nat} {t t' : Configs}
    {id : Int} (ok : env.writeConfig req now t = (.ok id, t')) :
    id = t.autoIncrement ∧ ∃ row, env.makePlanConfig req = .ok row ∧
      t' = (t.create { row with pixiu.gmtCreate := now, pixiu.gmtModified := now }).2 := by
  obtain ⟨row, t₁, made, stored⟩ := Op.bind_ok.mp ok
  simp only [Op.lift_apply, Prod.mk.injEq] at made
  obtain ⟨made, rfl⟩ := made
  obtain ⟨-, stored⟩ := call_ok stored
  cases stored
  exact ⟨rfl, row, made, rfl⟩

/-- **A write stores, under the next key, a row of the request's `PlanId`.** -/
theorem writeConfig_ok {req : CreatePlanConfigRequest K N R} {now : Nat} {t t' : Configs}
    {id : Int} (ok : env.writeConfig req now t = (.ok id, t')) :
    id = t.autoIncrement ∧ ∃ row, planOf row = req.planId ∧ t' = (t.create row).2 := by
  obtain ⟨rfl, row, made, rfl⟩ := writeConfig_stored ok
  have planned := makePlanConfig_planId made
  exact ⟨rfl, { row with pixiu.gmtCreate := now, pixiu.gmtModified := now }, planned, rfl⟩

/-- `CreateConfig` is its check, then its write. -/
theorem createConfig_eq (pid : Int) (req : CreatePlanConfigRequest K N R) (now : Nat) :
    env.createConfig pid req now =
      (env.preCreateConfig pid >>= fun _ => env.writeConfig req now >>= fun _ => pure ()) := rfl

/-- A `CreateConfig` that succeeded passed its check on the table it started from, then
wrote. -/
theorem createConfig_ok {pid : Int} {req : CreatePlanConfigRequest K N R} {now : Nat}
    {t t' : Configs} {u : Unit} (ok : env.createConfig pid req now t = (.ok u, t')) :
    (∃ u, (env.preCreateConfig pid t).1 = .ok u) ∧
      ∃ id, env.writeConfig req now t = (.ok id, t') := by
  obtain ⟨u₁, t₁, checked, ok₁⟩ := Op.bind_ok.mp ok
  obtain rfl : t = t₁ := (preCreateConfig_keeps pid t _ t₁ checked).symm
  obtain ⟨id, t₂, written, ok₂⟩ := Op.bind_ok.mp ok₁
  cases ok₂
  exact ⟨⟨u₁, by rw [checked]⟩, id, written⟩

/-- **`DeleteConfig(pid, cfgId)` deletes row `cfgId`, whatever its plan and whatever `pid`.** -/
theorem deleteConfig_eq (pid cfgId : Int) (t : Configs) :
    env.deleteConfig pid cfgId t = match env.fault .deleteConfig with
      | some _ => (.error .serverInternal, t)
      | none => (.ok (), t.delete cfgId) := by
  unfold deleteConfig deleteConfigRow call
  cases env.fault .deleteConfig <;> rfl

/-- `DeleteConfig` only removes rows. -/
theorem deleteConfig_first {pid cfgId : Int} {t : Configs} {id : Int} {row : Row ConfigColumns}
    (found : (env.deleteConfig pid cfgId t).2.first id = some row) : t.first id = some row := by
  rw [deleteConfig_eq] at found
  split at found
  · exact found
  · rw [Table.first_delete] at found
    split at found
    · cases found
    · exact found

end PlanEnv

end Pixiu.Plan
