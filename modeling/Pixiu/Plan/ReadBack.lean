/-
**Reading a plan config back: the specs come back, the name does not.**

`CreateConfig(pid, req)` stores the row `makePlanConfig` builds from `req`, and
`GetConfig(pid, cfgId)` gives plan `pid`'s row back through `modelConfig2Type`. Each spec makes
the round trip: it is stored marshalled and read back unmarshalled, so it comes back whenever
the spec's `Unmarshal` undoes its `Marshal` (`Codec.RoundTrip`). The plain fields do not:
`makePlanConfig` copies the request's `PlanId` and nothing else, so `Name`, `Region` and
`Description` are read back as the zero value `""`, whatever the request's `Name`.

* `modelConfig2Type_made` — the row `makePlanConfig` built, however stamped, reads back to the
  request's `PlanId` and specs and empty plain fields (`PlanConfig.CarriesRequest`);
* `getConfigByPlan_created` — after a `CreateConfig` of a plan of its own, `GetConfigByPlan`
  finds the row that call wrote;
* **`planConfig_read_back`** — both round trips: `modelConfig2Type(makePlanConfig(req))`, and
  `GetConfig(pid)` after a `CreateConfig(pid, req)` with `req.PlanId = pid`, succeed and give
  `req`'s `PlanId` and specs with an empty `Name`; `planConfig_read_back_unnamed` is the round
  trip of a request named `pixiu`;
* **`run_getConfig_carries_request`** — the same along every run of the store, whatever the
  interleaving of checks, writes and deletes: every stored row holds the columns `makePlanConfig`
  built from the request of its logged write (`run_madeFrom`, an instance of `logged_step`), so
  whatever `GetConfig(pid)` returns is of plan `pid` and carries such a request.
-/

import Pixiu.Plan.Clients

namespace Pixiu.Plan

open Pixiu.Db

/-- What a config read back from a request's row carries: the request's `PlanId` and specs, and
the zero value of each plain field `makePlanConfig` does not copy. -/
def PlanConfig.CarriesRequest {K N R : Type} (config : PlanConfig K N R)
    (req : CreatePlanConfigRequest K N R) : Prop :=
  config.planId = req.planId ∧ config.name = "" ∧ config.region = "" ∧
    config.description = "" ∧ config.kubernetes = req.kubernetes ∧
    config.network = req.network ∧ config.runtime = req.runtime

namespace PlanEnv

variable {K N R : Type} {env : PlanEnv K N R}

/-! ## Part 1 — one row, written and read -/

/-- **The row `makePlanConfig` built reads back**, whatever its stamps, to the request's
`PlanId` and specs and empty plain fields. -/
theorem modelConfig2Type_made (kubeRound : env.kubernetes.RoundTrip)
    (networkRound : env.network.RoundTrip) (runtimeRound : env.runtime.RoundTrip)
    {req : CreatePlanConfigRequest K N R} {row : Row ConfigColumns}
    (made : env.makePlanConfig req = .ok row) (id : Int) (pixiu : PixiuModel) :
    ∃ config, env.modelConfig2Type id ⟨pixiu, row.columns⟩ = .ok config ∧ config.id = id ∧
      config.CarriesRequest req := by
  obtain ⟨kb, nb, rb, k, n, r, rfl⟩ := makePlanConfig_ok.mp made
  unfold modelConfig2Type
  dsimp only
  rw [kubeRound _ _ k, networkRound _ _ n, runtimeRound _ _ r]
  exact ⟨_, rfl, rfl, rfl, rfl, rfl, rfl, rfl, rfl, rfl⟩

/-- After a `CreateConfig` of a plan of its own, `GetConfigByPlan` finds the row that call
wrote, under the key it drew. -/
theorem getConfigByPlan_created (noFault : env.fault .getConfigByPlan = none) {pid : Int}
    {req : CreatePlanConfigRequest K N R} (matching : req.planId = pid) {now : Nat}
    {t t' : Configs} {u : Unit} (created : env.createConfig pid req now t = (.ok u, t')) :
    ∃ row, env.makePlanConfig req = .ok row ∧ env.getConfigByPlan pid t' = (.ok
      (t.autoIncrement, { row with pixiu.gmtCreate := now, pixiu.gmtModified := now }), t') := by
  obtain ⟨passed, id, written⟩ := createConfig_ok created
  have absent := (preCreateConfig_ok_iff noFault pid t).mp passed
  obtain ⟨-, row, made, rfl⟩ := writeConfig_stored written
  refine ⟨row, made, ?_⟩
  rw [getConfigByPlan_eq noFault, Table.firstWhere_create]
  · exact decide_eq_true ((makePlanConfig_planId made).trans matching)
  · exact fun id old found => decide_eq_false (absent id old found)

/-! ## Part 2 — the round trips -/

/-- **Both round trips of a plan config keep the request's `PlanId` and specs, and lose its
`Name`.** When every spec's `Unmarshal` undoes its `Marshal`,
`modelConfig2Type(makePlanConfig(req))` succeeds for every request whose specs marshal; and
`GetConfig(pid, cfgId)` after a `CreateConfig(pid, req)` that succeeded, with `req.PlanId = pid`
and no outside failure of `GetConfigByPlan`, succeeds too. Both configs carry the request's
`PlanId` and specs, and an empty `Name`. -/
theorem planConfig_read_back (kubeRound : env.kubernetes.RoundTrip)
    (networkRound : env.network.RoundTrip) (runtimeRound : env.runtime.RoundTrip) :
    (∀ req : CreatePlanConfigRequest K N R, (∃ kb nb rb,
        env.kubernetes.marshal req.kubernetes = .ok kb ∧
          env.network.marshal req.network = .ok nb ∧ env.runtime.marshal req.runtime = .ok rb) →
      ∃ row, env.makePlanConfig req = .ok row ∧ ∀ id,
        ∃ config, env.modelConfig2Type id row = .ok config ∧ config.CarriesRequest req) ∧
    (env.fault .getConfigByPlan = none → ∀ (pid : Int) (req : CreatePlanConfigRequest K N R)
      (now : Nat) (t t' : Configs) (cfgId : Int), req.planId = pid →
      env.createConfig pid req now t = (.ok (), t') →
      ∃ config, env.getConfig pid cfgId t' = (.ok config, t') ∧ config.CarriesRequest req) := by
  refine ⟨fun req ⟨kb, nb, rb, k, n, r⟩ => ?_,
    fun noFault pid req now t t' cfgId matching created => ?_⟩
  · obtain ⟨row, made⟩ : ∃ row, env.makePlanConfig req = .ok row :=
      ⟨_, makePlanConfig_ok.mpr ⟨kb, nb, rb, k, n, r, rfl⟩⟩
    refine ⟨row, made, fun id => ?_⟩
    obtain ⟨config, back, -, carries⟩ :=
      modelConfig2Type_made kubeRound networkRound runtimeRound made id row.pixiu
    exact ⟨config, back, carries⟩
  · obtain ⟨row, made, found⟩ := getConfigByPlan_created noFault matching created
    obtain ⟨config, back, -, carries⟩ := modelConfig2Type_made kubeRound networkRound runtimeRound
      made t.autoIncrement { row.pixiu with gmtCreate := now, gmtModified := now }
    refine ⟨config, ?_, carries⟩
    unfold getConfig
    rw [found]
    exact congrArg (·, t') back

/-- Plan 1's first config, created from a request named `pixiu` on an empty table, reads back
with an empty name. -/
theorem planConfig_read_back_unnamed :
    ∃ config, plainPlanEnv.getConfig 1 1
        (plainPlanEnv.createConfig 1 (requestFor 1) 0 Table.empty).2 =
        (.ok config, (plainPlanEnv.createConfig 1 (requestFor 1) 0 Table.empty).2) ∧
      config.CarriesRequest (requestFor 1) ∧ config.name ≠ (requestFor 1).name := by
  obtain ⟨config, back, carries⟩ := (@planConfig_read_back _ _ _ plainPlanEnv
    (fun _ _ ok => ok.symm) (fun _ _ ok => ok.symm) (fun _ _ ok => ok.symm)).2
    rfl 1 (requestFor 1) 0 Table.empty _ 1 rfl rfl
  exact ⟨config, back, carries, by rw [carries.2.1]; decide⟩

/-! ## Part 3 — along every run -/

/-- A row holds the columns of the row `makePlanConfig` built from the request. -/
def MadeFrom (env : PlanEnv K N R) (req : CreatePlanConfigRequest K N R)
    (row : Row ConfigColumns) : Prop :=
  ∃ made, env.makePlanConfig req = .ok made ∧ row.columns = made.columns

/-- Along every run, every stored config holds the columns `makePlanConfig` built from the
request of its logged write. -/
theorem run_madeFrom (events : List ((PlanCall → Option Error) × Event K N R)) :
    Logged env.MadeFrom (env.run Clients.init events) :=
  env.run_logged (fun _ made _ ok => ⟨made, ok, rfl⟩) (fun _ _ found => by cases found) events

/-- A config `GetConfig(pid)` reads from a table of rows made from logged requests is of plan
`pid`, and carries one of those requests. -/
theorem getConfig_carries (kubeRound : env.kubernetes.RoundTrip)
    (networkRound : env.network.RoundTrip) (runtimeRound : env.runtime.RoundTrip)
    {s : Clients K N R} (inv : Logged env.MadeFrom s) {pid cfgId : Int}
    {config : PlanConfig K N R} (got : (env.getConfig pid cfgId s.store).1 = .ok config) :
    config.planId = pid ∧
      ∃ pid' req, (config.id, pid', req) ∈ s.written ∧ config.CarriesRequest req := by
  unfold getConfig at got
  rcases read : env.getConfigByPlan pid s.store with ⟨_ | ⟨id, object⟩, t'⟩ <;>
    rw [read] at got
  · cases got
  obtain ⟨stored, planned⟩ := getConfigByPlan_ok read
  obtain ⟨pid', req, mem, made, ok, columns⟩ := inv id object stored
  obtain ⟨config', back, named, carries⟩ :=
    modelConfig2Type_made kubeRound networkRound runtimeRound ok id object.pixiu
  rw [← columns] at back
  cases got.symm.trans back
  have asked : req.planId = pid := calc
    req.planId = planOf made := (makePlanConfig_planId ok).symm
    _ = planOf object := congrArg ConfigColumns.planId columns.symm
    _ = pid := planned
  exact ⟨carries.1.trans asked, pid', req, named ▸ mem, carries⟩

/-- **Along every run, a config `GetConfig(pid)` returns is of plan `pid` and carries the request
of the logged write of its own key**, whatever the interleaving of checks, writes and deletes
and whatever fails along it: the request's `PlanId` and specs, when every spec's `Unmarshal`
undoes its `Marshal`, and an empty `Name`. -/
theorem run_getConfig_carries_request (kubeRound : env.kubernetes.RoundTrip)
    (networkRound : env.network.RoundTrip) (runtimeRound : env.runtime.RoundTrip)
    (events : List ((PlanCall → Option Error) × Event K N R)) {pid cfgId : Int}
    {config : PlanConfig K N R}
    (got : (env.getConfig pid cfgId (env.run Clients.init events).store).1 = .ok config) :
    config.planId = pid ∧
      ∃ pid' req, (config.id, pid', req) ∈ (env.run Clients.init events).written ∧
        config.CarriesRequest req :=
  getConfig_carries kubeRound networkRound runtimeRound (run_madeFrom events) got

/-- A check and a write of plan 1's request named `pixiu`: `GetConfig(1, 1)` returns its config,
named `""`. -/
theorem run_getConfig_carries_request_pixiu :
    let config : PlanConfig String String String := ⟨1, 0, 0, 0, 1, "", "", "", "k", "n", "r"⟩
    let s := plainPlanEnv.run Clients.init
      [(fun _ => none, .check 1 (requestFor 1)), (fun _ => none, .write 0 0)]
    (plainPlanEnv.getConfig 1 1 s.store).1 = .ok config ∧ config.planId = 1 ∧
      ∃ pid' req, (config.id, pid', req) ∈ s.written ∧ config.CarriesRequest req :=
  ⟨rfl, @run_getConfig_carries_request _ _ _ plainPlanEnv (fun _ _ ok => ok.symm)
    (fun _ _ ok => ok.symm) (fun _ _ ok => ok.symm)
    [(fun _ => none, .check 1 (requestFor 1)), (fun _ => none, .write 0 0)] 1 1
    ⟨1, 0, 0, 0, 1, "", "", "", "k", "n", "r"⟩ rfl⟩

end PlanEnv

end Pixiu.Plan
