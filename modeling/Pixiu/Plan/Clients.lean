/-
**`CreateConfig` and `DeleteConfig` against each other: the runs of the plan-config store.**

`CreateConfig` checks and writes in two statements, with no lock or transaction between them,
so other calls run between the two. `model.Config` and its schema are not in the source; the
race below assumes that schema puts no unique index on `plan_id`, which would make the second
write fail. A run is a list of events in the database's order, each a check, a write or a
delete, with the outside failures its statement meets (`PlanEnv.run`); the creates that passed
their check and have not written are the system's `pending` calls, and a ghost log records, for
every config written, the call that wrote it. A serial run runs each create's check and write
back to back (`serialize`), as calls that never overlap do.

* `run_serialize_store` — a serial run leaves the table that the controller's whole calls
  leave, one after the other;
* `logged_step` — one event keeps every relation of the stored rows to the requests of their
  logged writes that each write gives the row it stores;
* **`run_provenance`** — along every run, every stored config was written by a `CreateConfig`
  whose request carries the config's `PlanId`;
* **`serial_unique`** — along a serial run in which every create asks for its own plan
  (`req.PlanId = pid`) and its `GetConfigByPlan` does not fail for an outside reason, every plan
  has at most one config;
* `planConfigs_run_invariants` — those two, and `DeleteConfig(pid, cfgId)` deleting config
  `cfgId` whatever its plan; `planConfigs_race` is a run they leave out, in which two creates of
  one plan both pass their check.
-/

import Pixiu.Plan.PlanConfig

namespace Pixiu.Plan

open Pixiu.Db

/-- The config table with its clients. -/
structure Clients (K N R : Type) where
  store : Configs
  /-- The `CreateConfig` calls that passed their check and have not written, with their `pid`
  and request. -/
  pending : List (Int × CreatePlanConfigRequest K N R)
  /-- Ghost: every config written, by its key, with the `pid` and the request of the call that
  wrote it. -/
  written : List (Int × Int × CreatePlanConfigRequest K N R)

/-- The empty table, with no clients. -/
def Clients.init {K N R : Type} : Clients K N R := ⟨Table.empty, [], []⟩

/-- One statement of a client, in the database's order. -/
inductive Event (K N R : Type) where
  /-- `CreateConfig(pid, req)` runs its check. -/
  | check (pid : Int) (req : CreatePlanConfigRequest K N R)
  /-- The `k`-th pending `CreateConfig` builds its row and writes it. -/
  | write (k now : Nat)
  /-- `DeleteConfig(pid, cfgId)`. -/
  | delete (pid cfgId : Int)

/-- A whole call of the plan controller. -/
inductive Call (K N R : Type) where
  | createConfig (pid : Int) (req : CreatePlanConfigRequest K N R) (now : Nat)
  | deleteConfig (pid cfgId : Int)

/-- The events of calls that never overlap: each create's check directly followed by its
write, each meeting the call's outside failures. -/
def serialize {K N R : Type} :
    List ((PlanCall → Option Error) × Call K N R) → List ((PlanCall → Option Error) × Event K N R)
  | [] => []
  | (fault, .createConfig pid req now) :: rest =>
    (fault, .check pid req) :: (fault, .write 0 now) :: serialize rest
  | (fault, .deleteConfig pid cfgId) :: rest => (fault, .delete pid cfgId) :: serialize rest

/-- A create that asks for its own plan, and whose check does not fail for an outside reason. -/
def Call.Matching {K N R : Type} (fault : PlanCall → Option Error) : Call K N R → Prop
  | .createConfig pid req _ => fault .getConfigByPlan = none ∧ req.planId = pid
  | .deleteConfig _ _ => True

/-- Every plan has at most one config. -/
def Unique (t : Configs) : Prop :=
  ∀ id id' row row', t.first id = some row → t.first id' = some row' →
    planOf row = planOf row' → id = id'

/-- Every stored config is related by `P` to the request of the logged write that stored it. -/
def Logged {K N R : Type} (P : CreatePlanConfigRequest K N R → Row ConfigColumns → Prop)
    (s : Clients K N R) : Prop :=
  ∀ id row, s.store.first id = some row → ∃ pid req, (id, pid, req) ∈ s.written ∧ P req row

/-- Every stored config was written by a `CreateConfig` whose request carries its `PlanId`. -/
def Provenance {K N R : Type} (s : Clients K N R) : Prop :=
  ∀ id row, s.store.first id = some row →
    ∃ pid req, (id, pid, req) ∈ s.written ∧ planOf row = req.planId

namespace PlanEnv

variable {K N R : Type} (env : PlanEnv K N R)

/-! ## Part 1 — the two levels -/

/-- The system after one event. -/
def step (s : Clients K N R) : Event K N R → Clients K N R
  | .check pid req =>
    match env.preCreateConfig pid s.store with
    | (.ok (), store) => { s with store, pending := s.pending ++ [(pid, req)] }
    | (.error _, store) => { s with store }
  | .write k now =>
    match s.pending[k]? with
    | some (pid, req) =>
      match env.writeConfig req now s.store with
      | (.ok id, store) => ⟨store, s.pending.eraseIdx k, (id, pid, req) :: s.written⟩
      | (.error _, store) => { s with store, pending := s.pending.eraseIdx k }
    | none => s
  | .delete pid cfgId => { s with store := (env.deleteConfig pid cfgId s.store).2 }

/-- The system after the events of a run, each meeting the outside failures given with it. -/
def run : Clients K N R → List ((PlanCall → Option Error) × Event K N R) → Clients K N R
  | s, [] => s
  | s, (fault, e) :: rest => run ({ env with fault }.step s e) rest

/-- The table after one whole call. -/
def applyCall (t : Configs) : Call K N R → Configs
  | .createConfig pid req now => (env.createConfig pid req now t).2
  | .deleteConfig pid cfgId => (env.deleteConfig pid cfgId t).2

/-- The table after whole calls, one after the other, each meeting its outside failures. -/
def runCalls : Configs → List ((PlanCall → Option Error) × Call K N R) → Configs
  | t, [] => t
  | t, (fault, c) :: rest => runCalls ({ env with fault }.applyCall t c) rest

/-- A create's check and write back to back are its whole call, and leave no pending call. -/
theorem step_check_write {s : Clients K N R} (idle : s.pending = []) (pid : Int)
    (req : CreatePlanConfigRequest K N R) (now : Nat) :
    let s' := env.step (env.step s (.check pid req)) (.write 0 now)
    s'.store = (env.createConfig pid req now s.store).2 ∧ s'.pending = [] := by
  simp only [step, createConfig_eq, Op.bind_apply]
  rcases env.preCreateConfig pid s.store with ⟨_ | _, store⟩
  · simp [idle]
  · simp only [idle, List.nil_append, List.getElem?_cons_zero]
    rcases env.writeConfig req now store with ⟨_ | _, _⟩ <;> simp

/-- **A serial run leaves the table the whole calls leave.** -/
theorem run_serialize_store {s : Clients K N R} (idle : s.pending = [])
    (calls : List ((PlanCall → Option Error) × Call K N R)) :
    (env.run s (serialize calls)).store = env.runCalls s.store calls := by
  induction calls generalizing s with
  | nil => rfl
  | cons fc rest ih =>
    obtain ⟨fault, c⟩ := fc
    cases c with
    | createConfig pid req now =>
      obtain ⟨stored, idle'⟩ := { env with fault }.step_check_write idle pid req now
      exact (ih idle').trans (congrArg (env.runCalls · rest) stored)
    | deleteConfig pid cfgId => exact ih idle

end PlanEnv

/-! ## Part 2 — where every config comes from -/

variable {K N R : Type}

theorem provenance_init : Provenance (Clients.init : Clients K N R) := fun _ _ found => by
  cases found

/-- A system whose table holds only rows of the old one, and whose log kept the old entries,
keeps every logged relation. -/
theorem Logged.mono {P : CreatePlanConfigRequest K N R → Row ConfigColumns → Prop}
    {s s' : Clients K N R} (inv : Logged P s)
    (rows : ∀ id row, s'.store.first id = some row → s.store.first id = some row)
    (log : ∀ entry ∈ s.written, entry ∈ s'.written) : Logged P s' := fun id row found => by
  obtain ⟨pid, req, mem, related⟩ := inv id row (rows id row found)
  exact ⟨pid, req, log _ mem, related⟩

/-- A logged write of a row related to its request keeps every logged relation. -/
theorem Logged.create {P : CreatePlanConfigRequest K N R → Row ConfigColumns → Prop}
    {s : Clients K N R} (inv : Logged P s) {row : Row ConfigColumns} {pid : Int}
    {req : CreatePlanConfigRequest K N R} (related : P req row)
    (pending : List (Int × CreatePlanConfigRequest K N R)) :
    Logged P ⟨(s.store.create row).2, pending, (s.store.autoIncrement, pid, req) :: s.written⟩ := by
  intro id stored found
  rw [Table.first_create] at found
  split at found
  · next fresh =>
    cases found
    exact ⟨pid, req, fresh ▸ List.mem_cons_self _ _, related⟩
  · obtain ⟨pid', req', mem, related'⟩ := inv id stored found
    exact ⟨pid', req', List.mem_cons_of_mem _ mem, related'⟩

namespace PlanEnv

variable (env : PlanEnv K N R)

/-- **One event keeps every relation of stored rows to their logged requests that each write
gives the row it stores**: a check stores nothing, a delete only removes rows, and a write stores
the row `makePlanConfig` built from its request, stamped. -/
theorem logged_step {P : CreatePlanConfigRequest K N R → Row ConfigColumns → Prop}
    (writes : ∀ req made now, env.makePlanConfig req = .ok made →
      P req { made with pixiu.gmtCreate := now, pixiu.gmtModified := now })
    {s : Clients K N R} (inv : Logged P s) : ∀ e, Logged P (env.step s e)
  | .check pid req => by
    dsimp only [step]
    rcases checked : env.preCreateConfig pid s.store with ⟨_ | _, store⟩ <;>
      obtain rfl : store = s.store := preCreateConfig_keeps pid s.store _ store checked <;>
      exact inv
  | .write k now => by
    dsimp only [step]
    rcases s.pending[k]? with _ | ⟨pid, req⟩
    · exact inv
    dsimp only
    rcases written : env.writeConfig req now s.store with ⟨_ | id, store⟩
    · obtain rfl : store = s.store := writeConfig_keepsOnError req now s.store _ store written
      exact inv
    obtain ⟨rfl, made, ok, rfl⟩ := writeConfig_stored written
    exact inv.create (writes req made now ok) _
  | .delete _ _ => inv.mono (fun _ _ => deleteConfig_first) fun _ => id

/-- Along every run, every logged relation that each write gives its row holds. -/
theorem run_logged {P : CreatePlanConfigRequest K N R → Row ConfigColumns → Prop}
    (writes : ∀ req made now, env.makePlanConfig req = .ok made →
      P req { made with pixiu.gmtCreate := now, pixiu.gmtModified := now })
    {s : Clients K N R} (inv : Logged P s) : ∀ events, Logged P (env.run s events)
  | [] => inv
  | (fault, e) :: rest => run_logged writes ({ env with fault }.logged_step writes inv e) rest

/-- **Along every run, every stored config was written by a `CreateConfig` whose request
carries its `PlanId`.** -/
theorem run_provenance {s : Clients K N R} (inv : Provenance s) :
    ∀ events, Provenance (env.run s events) :=
  env.run_logged (P := fun req row => planOf row = req.planId)
    (fun _ _ _ made => (makePlanConfig_planId made :)) inv

end PlanEnv

/-! ## Part 3 — one config per plan, along serial runs -/

theorem unique_empty : Unique (Table.empty : Configs) := fun _ _ _ _ found => by cases found

/-- A table holding only rows of a table with one config per plan has one config per plan. -/
theorem Unique.mono {t t' : Configs} (inv : Unique t)
    (rows : ∀ id row, t'.first id = some row → t.first id = some row) : Unique t' :=
  fun id id' row row' found found' => inv id id' row row' (rows id row found) (rows id' row' found')

/-- A row of a plan that has none keeps one config per plan. -/
theorem Unique.create {t : Configs} (inv : Unique t) {row : Row ConfigColumns}
    (absent : ∀ id old, t.first id = some old → planOf old ≠ planOf row) :
    Unique (t.create row).2 := by
  intro id id' r r' found found' same
  rw [Table.first_create] at found found'
  split at found <;> split at found'
  · next fresh fresh' => exact fresh.trans fresh'.symm
  · next fresh _ => cases found; exact absurd same.symm (absent id' r' found')
  · next _ fresh' => cases found'; exact absurd same (absent id r found)
  · exact inv id id' r r' found found' same

namespace PlanEnv

variable (env : PlanEnv K N R)

/-- **A whole `CreateConfig` of its own plan keeps one config per plan**, unless
`GetConfigByPlan` fails for an outside reason. -/
theorem unique_createConfig (noFault : env.fault .getConfigByPlan = none) {t : Configs}
    (inv : Unique t) {pid : Int} {req : CreatePlanConfigRequest K N R} (matching : req.planId = pid)
    (now : Nat) : Unique (env.createConfig pid req now t).2 := by
  simp only [createConfig_eq, Op.bind_apply]
  rcases checked : env.preCreateConfig pid t with ⟨_ | u, t₁⟩ <;>
    obtain rfl : t = t₁ := (preCreateConfig_keeps pid t _ t₁ checked).symm
  · exact inv
  have absent := (preCreateConfig_ok_iff noFault pid t).mp ⟨u, by rw [checked]⟩
  dsimp only
  rcases written : env.writeConfig req now t with ⟨_ | id, t₂⟩
  · obtain rfl : t = t₂ := (writeConfig_keepsOnError req now t _ t₂ written).symm
    exact inv
  obtain ⟨-, row, planned, rfl⟩ := writeConfig_ok written
  exact inv.create fun id old found => planned ▸ matching ▸ absent id old found

/-- Whole calls, creates of their own plans whose checks meet no outside failure, keep one
config per plan. -/
theorem unique_runCalls {t : Configs} (inv : Unique t) :
    ∀ calls : List ((PlanCall → Option Error) × Call K N R),
      (∀ fc ∈ calls, fc.2.Matching fc.1) → Unique (env.runCalls t calls)
  | [], _ => inv
  | (fault, .createConfig _ _ now) :: rest, matching =>
    have ⟨noFault, planned⟩ := matching _ (.head _)
    unique_runCalls ({ env with fault }.unique_createConfig noFault inv planned now) rest
      fun fc mem => matching fc (.tail _ mem)
  | (_, .deleteConfig _ _) :: rest, matching =>
    unique_runCalls (inv.mono fun _ _ => deleteConfig_first) rest
      fun fc mem => matching fc (.tail _ mem)

/-- **Along a serial run of creates of their own plans, every plan has at most one config.** -/
theorem serial_unique {s : Clients K N R} (idle : s.pending = []) (inv : Unique s.store)
    (calls : List ((PlanCall → Option Error) × Call K N R))
    (matching : ∀ fc ∈ calls, fc.2.Matching fc.1) :
    Unique (env.run s (serialize calls)).store := by
  rw [env.run_serialize_store idle]
  exact env.unique_runCalls inv calls matching

end PlanEnv

/-! ## Part 4 — what the store keeps along its runs -/

/-- **What the plan-config store keeps along its runs.** Along every run from the empty table,
whatever the interleaving of checks and writes, every config was written by a `CreateConfig`
whose request carries its `PlanId`, which the call's `pid` need not be, whatever fails for an
outside reason. Along every serial run from the empty table in which every create asks for its
own plan and its `GetConfigByPlan` does not fail for an outside reason, every plan has at most
one config. `DeleteConfig(pid, cfgId)` deletes config `cfgId`, whatever its plan and whatever
`pid`. -/
theorem planConfigs_run_invariants {K N R : Type} (env : PlanEnv K N R) :
    (∀ events, Provenance (env.run Clients.init events)) ∧
    (∀ calls : List ((PlanCall → Option Error) × Call K N R),
      (∀ fc ∈ calls, fc.2.Matching fc.1) →
      Unique (env.run Clients.init (serialize calls)).store) ∧
    (∀ pid cfgId t, env.fault .deleteConfig = none →
      env.deleteConfig pid cfgId t = (.ok (), t.delete cfgId)) :=
  ⟨env.run_provenance provenance_init, fun calls matching =>
    env.serial_unique rfl unique_empty calls matching,
   fun pid cfgId t noFault => by rw [PlanEnv.deleteConfig_eq, noFault]⟩

/-- An environment for concrete runs: each spec is its own marshalled form, and no DAO call
fails for an outside reason. -/
def plainPlanEnv : PlanEnv String String String :=
  ⟨⟨.ok, .ok⟩, ⟨.ok, .ok⟩, ⟨.ok, .ok⟩, fun _ => none⟩

/-- A request for plan `p`. -/
def requestFor (p : Int) : CreatePlanConfigRequest String String String :=
  ⟨p, "pixiu", "k", "n", "r"⟩

/-- Runs the invariants leave out. Two `CreateConfig(1, ·)` that both check before either writes
leave plan `1` with two configs; a serial `CreateConfig(1, req)` whose request is for plan `2`
writes a config of plan `2`; and `DeleteConfig(1, 1)` deletes config `1` of plan `2`. -/
theorem planConfigs_race :
    ((plainPlanEnv.run Clients.init [(fun _ => none, .check 1 (requestFor 1)),
        (fun _ => none, .check 1 (requestFor 1)), (fun _ => none, .write 0 5),
        (fun _ => none, .write 0 6)]).store.find fun row => planOf row = 1).length = 2 ∧
      (plainPlanEnv.run Clients.init
          (serialize [(fun _ => none, .createConfig 1 (requestFor 2) 5)])).written.map
        (fun entry => (entry.2.1, entry.2.2.planId)) = [(1, 2)] ∧
      ((plainPlanEnv.run Clients.init (serialize [(fun _ => none, .createConfig 2 (requestFor 2) 5),
        (fun _ => none, .deleteConfig 1 1)])).store.find fun _ => true).length = 0 := by
  decide

end Pixiu.Plan
