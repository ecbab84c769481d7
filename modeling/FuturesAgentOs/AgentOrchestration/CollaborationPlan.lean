import FuturesAgentOs.AgentOrchestration.Artifacts
import FuturesAgentOs.PyModel.Layers

namespace FuturesAgentOs

open PyModel

/-!
# Collaboration plans

`agent_orchestration/v3_parallel.py`: a plan is a set of specialist tasks with dependencies
under a budget.  Its checks walk the dependency graph and number its rounds; the walk leaves
the depth of every task (`layers`).
-/

structure CollaborationBudgetFields where
  maxTasks : ℤ
  maxParallelTasks : ℤ
  maxRounds : ℤ
  maxTokens : ℤ
  maxToolCalls : ℤ
  maxWallMillis : ℤ
  maxComputeUnits : ℤ
  deriving DecidableEq

namespace CollaborationBudgetFields

def postInit (f : CollaborationBudgetFields) : Py Unit := do
  require
    (∀ value ∈ [f.maxTasks, f.maxParallelTasks, f.maxRounds, f.maxTokens, f.maxToolCalls,
      f.maxWallMillis, f.maxComputeUnits], 0 < value)
    (valueError "collaboration budgets must be positive integer hard limits")
  require (f.maxParallelTasks ≤ f.maxTasks)
    (valueError "parallel task limit cannot exceed total task limit")

instance : Dataclass CollaborationBudgetFields := ⟨postInit⟩

end CollaborationBudgetFields

/-- The hard limits of a collaboration. -/
abbrev CollaborationBudget := Frozen CollaborationBudgetFields

structure SpecialistTaskLimitFields where
  maxTokens : ℤ
  maxToolCalls : ℤ
  maxWallMillis : ℤ
  maxComputeUnits : ℤ
  deriving DecidableEq

namespace SpecialistTaskLimitFields

def postInit (f : SpecialistTaskLimitFields) : Py Unit :=
  require
    ((∀ value ∈ [f.maxTokens, f.maxWallMillis, f.maxComputeUnits], 0 < value)
      ∧ 0 ≤ f.maxToolCalls)
    (valueError "specialist task limits require bounded tokens, time, tools and compute")

instance : Dataclass SpecialistTaskLimitFields := ⟨postInit⟩

end SpecialistTaskLimitFields

/-- The hard limits of one task. -/
abbrev SpecialistTaskLimit := Frozen SpecialistTaskLimitFields

structure CollaborationTaskFields where
  taskKey : Text
  role : AgentRoleId
  inputRefs : List ArtifactRef
  outputKind : ArtifactKind
  allowedTools : List Text
  dependencies : List Text
  limits : SpecialistTaskLimit
  deriving DecidableEq

namespace CollaborationTaskFields

def postInit (f : CollaborationTaskFields) : Py Unit := do
  require f.taskKey.IsScopeText
    (valueError "collaboration task requires a canonical task key")
  require (f.inputRefs ≠ [])
    (valueError "collaboration task requires immutable artifact inputs")
  require ((∀ tool ∈ f.allowedTools, tool.strip ≠ []) ∧ f.allowedTools.Nodup)
    (valueError "collaboration task requires a unique tool allowlist")
  require ((∀ key ∈ f.dependencies, key ≠ []) ∧ f.dependencies.Nodup
      ∧ f.taskKey ∉ f.dependencies)
    (valueError "collaboration task requires unique non-self dependencies")

instance : Dataclass CollaborationTaskFields := ⟨postInit⟩

end CollaborationTaskFields

/-- One specialist task. -/
abbrev CollaborationTask := Frozen CollaborationTaskFields

namespace CollaborationTask

def taskKey (task : CollaborationTask) : Text := task.fields.taskKey

def dependencies (task : CollaborationTask) : List Text := task.fields.dependencies

end CollaborationTask

/-! ### Depths -/

/-- `depth` of `CollaborationPlan.__post_init__`, with the table `depths` that it fills in.  A
call chain visits every task once at most, so the number of tasks bounds it. -/
def collaborationDepth (tasks : List CollaborationTask) :
    ℕ → Text → List Text → Dict Text ℕ → Py (ℕ × Dict Text ℕ)
  | 0, _, _, _ => .error ⟨.recursionError, "maximum recursion depth exceeded"⟩
  | fuel + 1, key, visiting, depths =>
    if key ∈ visiting then
      .error (valueError "collaboration dependency graph contains a cycle")
    else
      match depths.get? key with
      | some n => .ok (n, depths)
      | none =>
        match tasks.find? (fun item => item.taskKey = key) with
        | none => .error ⟨.runtimeError, "generator raised StopIteration"⟩
        | some task => do
          let deepest ← task.dependencies.foldlM (fun acc dependency => do
            let below ← collaborationDepth tasks fuel dependency (key :: visiting) acc.2
            .ok (max acc.1 below.1, below.2)) (0, depths)
          .ok (1 + deepest.1, deepest.2.set key (1 + deepest.1))

/-- `max(depth(key, frozenset()) for key in keys)`, with the table it leaves. -/
def collaborationRounds (tasks : List CollaborationTask) : Py (ℕ × Dict Text ℕ) :=
  (tasks.map CollaborationTask.taskKey).foldlM (fun acc key => do
    let below ← collaborationDepth tasks (tasks.length + 1) key [] acc.2
    .ok (max acc.1 below.1, below.2)) (0, Dict.empty)

structure CollaborationPlanFields where
  tasks : List CollaborationTask
  budget : CollaborationBudget
  asOf : RecordedAt
  expiresAt : RecordedAt
  deriving DecidableEq

namespace CollaborationPlanFields

def keys (f : CollaborationPlanFields) : List Text := f.tasks.map CollaborationTask.taskKey

def postInit (f : CollaborationPlanFields) : Py Unit := do
  require (f.tasks ≠ []) (valueError "collaboration plan requires typed tasks")
  require (f.asOf < f.expiresAt)
    (valueError "collaboration plan expiry must follow its PIT cutoff")
  require ((f.tasks.length : ℤ) ≤ f.budget.fields.maxTasks)
    (valueError "collaboration plan exceeds the task hard limit")
  require f.keys.Nodup (valueError "collaboration task keys must be unique")
  require (∀ task ∈ f.tasks, ∀ dependency ∈ task.dependencies, dependency ∈ f.keys)
    (valueError "collaboration dependency references an unknown task")
  require (∀ task ∈ f.tasks, ∀ ref ∈ task.fields.inputRefs,
      ref.fields.asOf = f.asOf ∧ ref.fields.createdAt ≤ f.asOf)
    (valueError "collaboration inputs must be available at one PIT cutoff")
  require ((f.tasks.map (fun task => task.fields.limits.fields.maxTokens)).sum
      ≤ f.budget.fields.maxTokens)
    (valueError "collaboration token reservations exceed the hard limit")
  require ((f.tasks.map (fun task => task.fields.limits.fields.maxToolCalls)).sum
      ≤ f.budget.fields.maxToolCalls)
    (valueError "collaboration tool reservations exceed the hard limit")
  require ((f.tasks.map (fun task => task.fields.limits.fields.maxComputeUnits)).sum
      ≤ f.budget.fields.maxComputeUnits)
    (valueError "collaboration compute reservations exceed the hard limit")
  require (∀ task ∈ f.tasks, task.fields.limits.fields.maxWallMillis
      ≤ f.budget.fields.maxWallMillis)
    (valueError "specialist wall-time limit exceeds the collaboration limit")
  let rounds ← collaborationRounds f.tasks
  require ((rounds.1 : ℤ) ≤ f.budget.fields.maxRounds)
    (valueError "collaboration dependency rounds exceed the loop hard limit")

instance : Dataclass CollaborationPlanFields := ⟨postInit⟩

end CollaborationPlanFields

/-- A bounded collaboration plan. -/
abbrev CollaborationPlan := Frozen CollaborationPlanFields

/-! ### What the walk leaves -/

section

variable {tasks : List CollaborationTask}

/-- Every entry of the table is one more than the greatest entry it depends on. -/
def IsDepthTable (tasks : List CollaborationTask) (depths : Dict Text ℕ) : Prop :=
  ∀ key n, depths.get? key = some n → ∃ task,
    tasks.find? (fun item => item.taskKey = key) = some task ∧ 0 < n
      ∧ (∀ dependency ∈ task.dependencies, ∃ m, depths.get? dependency = some m ∧ m < n)
      ∧ (1 < n → ∃ dependency ∈ task.dependencies, depths.get? dependency = some (n - 1))

/-- What a call of `depth` leaves of the table: old entries stay, and the keys that are being
visited get none. -/
structure Visits (tasks : List CollaborationTask) (visiting : List Text) (key : Text)
    (depths : Dict Text ℕ) (n : ℕ) (after : Dict Text ℕ) : Prop where
  isTable : IsDepthTable tasks after
  found : after.get? key = some n
  keeps : ∀ k m, depths.get? k = some m → after.get? k = some m
  untouched : ∀ k ∈ visiting, after.get? k = depths.get? k

private theorem foldlM_visits (visiting : List Text)
    {visit : Text → Dict Text ℕ → Py (ℕ × Dict Text ℕ)}
    (hvisit : ∀ key depths n after, IsDepthTable tasks depths →
      visit key depths = .ok (n, after) → Visits tasks visiting key depths n after)
    (keys : List Text) : ∀ (start : ℕ) (depths : Dict Text ℕ) (n : ℕ) (after : Dict Text ℕ),
      IsDepthTable tasks depths →
      keys.foldlM (fun acc key => do
        let below ← visit key acc.2
        .ok (max acc.1 below.1, below.2)) (start, depths) = .ok (n, after) →
      IsDepthTable tasks after ∧ start ≤ n
        ∧ (∀ key ∈ keys, ∃ m, after.get? key = some m ∧ m ≤ n)
        ∧ (n = start ∨ ∃ key ∈ keys, after.get? key = some n)
        ∧ (∀ k m, depths.get? k = some m → after.get? k = some m)
        ∧ (∀ k ∈ visiting, after.get? k = depths.get? k) := by
  induction keys with
  | nil =>
    intro start depths n after htable h
    injection h with h
    injection h with hn hafter
    subst hn hafter
    exact ⟨htable, le_refl _, by simp, Or.inl rfl, fun k m hk => hk, fun k _ => rfl⟩
  | cons key keys ih =>
    intro start depths n after htable h
    rw [List.foldlM_cons] at h
    obtain ⟨⟨start', depths'⟩, hstep, hrest⟩ := Py.of_bind h
    obtain ⟨⟨m, below⟩, hcall, heq⟩ := Py.of_bind hstep
    injection heq with heq
    injection heq with hstart hbelow
    subst hstart hbelow
    have hfirst := hvisit key depths m below htable hcall
    obtain ⟨hafter, hle, hall, hmax, hkeeps, hsame⟩ := ih _ _ _ _ hfirst.isTable hrest
    have hkey := hkeeps key m hfirst.found
    refine ⟨hafter, by omega, ?_, ?_, fun k v hk => hkeeps k v (hfirst.keeps k v hk),
      fun k hk => (hsame k hk).trans (hfirst.untouched k hk)⟩
    · rw [List.forall_mem_cons]
      exact ⟨⟨m, hkey, by omega⟩, hall⟩
    · rcases hmax with hmax | ⟨k, hk, hget⟩
      · rcases max_choice start m with hmaxEq | hmaxEq
        · exact Or.inl (by omega)
        · exact Or.inr ⟨key, List.mem_cons_self, by rw [hkey, hmax, hmaxEq]⟩
      · exact Or.inr ⟨k, List.mem_cons_of_mem _ hk, hget⟩

/-- **A call of `depth`** adds the depth of its key and of what that depends on. -/
theorem visits_of_collaborationDepth {fuel : ℕ} :
    ∀ {key : Text} {visiting : List Text} {depths : Dict Text ℕ} {n : ℕ} {after : Dict Text ℕ},
      IsDepthTable tasks depths →
      collaborationDepth tasks fuel key visiting depths = .ok (n, after) →
      Visits tasks visiting key depths n after := by
  induction fuel with
  | zero =>
    intro key visiting depths n after _ h
    cases h
  | succ fuel ih =>
    intro key visiting depths n after htable h
    rw [collaborationDepth] at h
    by_cases hvisiting : key ∈ visiting
    · rw [if_pos hvisiting] at h
      cases h
    rw [if_neg hvisiting] at h
    rcases hget : depths.get? key with _ | known
    · rcases hfind : tasks.find? (fun item => item.taskKey = key) with _ | task
      · simp only [hget, hfind] at h
        cases h
      simp only [hget, hfind] at h
      obtain ⟨⟨deepest, below⟩, hwalk, heq⟩ := Py.of_bind h
      injection heq with heq
      injection heq with hn hafter
      subst hn hafter
      obtain ⟨hbelow, -, hall, hmax, hkeeps, hsame⟩ :=
        foldlM_visits (key :: visiting) (fun k d m a hd hk => ih hd hk) task.dependencies 0
          depths deepest below
          htable hwalk
      -- the key is being visited, so the calls for its dependencies left it out
      have hnew : below.get? key = none := (hsame key List.mem_cons_self).trans hget
      have hgrows : ∀ k m, below.get? k = some m →
          (below.set key (1 + deepest)).get? k = some m := by
        intro k m hk
        have hne : k ≠ key := by
          rintro rfl
          rw [hnew] at hk
          cases hk
        rw [Dict.get?_set_of_ne below _ hne, hk]
      refine ⟨?_, Dict.get?_set_self below _ _, fun k m hk => hgrows k m (hkeeps k m hk), ?_⟩
      · intro k m hk
        rw [Dict.get?_set] at hk
        by_cases hkey : k = key
        · subst hkey
          rw [if_pos rfl, Option.some.injEq] at hk
          subst hk
          refine ⟨task, hfind, by omega, fun dependency hdependency => ?_, fun hdeep => ?_⟩
          · obtain ⟨v, hv, hle⟩ := hall dependency hdependency
            exact ⟨v, hgrows _ _ hv, by omega⟩
          · rcases hmax with hmax | ⟨dependency, hdependency, hv⟩
            · omega
            · exact ⟨dependency, hdependency, by rw [hgrows _ _ hv, Nat.add_sub_cancel_left]⟩
        · rw [if_neg hkey] at hk
          obtain ⟨task', hfind', hpos, hdeps, hmost⟩ := hbelow k m hk
          refine ⟨task', hfind', hpos, fun dependency hdependency => ?_, fun hdeep => ?_⟩
          · obtain ⟨v, hv, hlt⟩ := hdeps dependency hdependency
            exact ⟨v, hgrows _ _ hv, hlt⟩
          · obtain ⟨dependency, hdependency, hv⟩ := hmost hdeep
            exact ⟨dependency, hdependency, hgrows _ _ hv⟩
      · intro k hk
        have hne : k ≠ key := fun heq => hvisiting (heq ▸ hk)
        rw [Dict.get?_set_of_ne below _ hne]
        exact hsame k (List.mem_cons_of_mem _ hk)
    · simp only [hget] at h
      injection h with h
      injection h with hn hafter
      subst hn hafter
      exact ⟨htable, hget, fun k m hk => hk, fun k _ => rfl⟩

/-- **The walk over all keys** leaves a table with the depth of every task. -/
theorem isDepthTable_of_collaborationRounds {rounds : ℕ × Dict Text ℕ}
    (h : collaborationRounds tasks = .ok rounds) :
    IsDepthTable tasks rounds.2
      ∧ ∀ task ∈ tasks, ∃ n, rounds.2.get? task.taskKey = some n ∧ n ≤ rounds.1 := by
  have hempty : IsDepthTable tasks Dict.empty := by
    intro key n hn
    cases hn
  obtain ⟨htable, -, hall, -⟩ :=
    foldlM_visits [] (fun k d m a hd hk => visits_of_collaborationDepth hd hk) _
      0 Dict.empty rounds.1 rounds.2 hempty h
  exact ⟨htable, fun task htask => hall _ (List.mem_map_of_mem htask)⟩

/-- **The bound on the recursion is never reached.**  The keys being visited are distinct keys
of the plan, so one more than the number of tasks is enough. -/
theorem collaborationDepth_not_recursionError (fuel : ℕ) : ∀ (key : Text) (visiting : List Text)
    (depths : Dict Text ℕ), visiting.Nodup →
      (∀ k ∈ visiting, k ∈ tasks.map CollaborationTask.taskKey) →
      tasks.length < fuel + visiting.length →
      Py.OnlyRaises (fun e => e.kind ≠ .recursionError)
        (collaborationDepth tasks fuel key visiting depths) := by
  induction fuel with
  | zero =>
    intro key visiting depths hnodup hknown hfuel
    have hle := (List.subperm_of_subset hnodup hknown).length_le
    rw [List.length_map] at hle
    omega
  | succ fuel ih =>
    intro key visiting depths hnodup hknown hfuel
    rw [collaborationDepth]
    by_cases hvisiting : key ∈ visiting
    · rw [if_pos hvisiting]
      rintro e ⟨⟩
      exact ExceptionKind.noConfusion
    rw [if_neg hvisiting]
    rcases hget : depths.get? key with _ | known
    · rcases hfind : tasks.find? (fun item => item.taskKey = key) with _ | task
      · simp only [hfind]
        rintro e ⟨⟩
        exact ExceptionKind.noConfusion
      simp only [hfind]
      refine Py.OnlyRaises.bind (Py.OnlyRaises.foldlM fun acc dependency => ?_)
        fun deepest => Py.OnlyRaises.ok _
      refine Py.OnlyRaises.bind ?_ fun below => Py.OnlyRaises.ok _
      have hkey : task.taskKey = key := by simpa using List.find?_some hfind
      apply ih
      · exact List.nodup_cons.mpr ⟨hvisiting, hnodup⟩
      · rw [List.forall_mem_cons]
        exact ⟨List.mem_map.mpr ⟨task, List.mem_of_find?_eq_some hfind, hkey⟩, hknown⟩
      · rw [List.length_cons]
        omega
    · exact Py.OnlyRaises.ok _

end

namespace CollaborationPlan

def tasks (plan : CollaborationPlan) : List CollaborationTask := plan.fields.tasks

/-- The table that the checks of the plan fill in. -/
def depths (plan : CollaborationPlan) : Dict Text ℕ :=
  match collaborationRounds plan.tasks with
  | .ok rounds => rounds.2
  | .error _ => Dict.empty

/-- The dependencies of the task with a key. -/
def dependenciesOf (plan : CollaborationPlan) (key : Text) : List Text :=
  ((plan.tasks.find? (fun item => item.taskKey = key)).map CollaborationTask.dependencies).getD []

theorem keys_facts (plan : CollaborationPlan) :
    plan.fields.keys.Nodup
      ∧ ∀ task ∈ plan.tasks, ∀ dependency ∈ task.dependencies, dependency ∈ plan.fields.keys := by
  have h := plan.valid
  simp only [postInit, CollaborationPlanFields.postInit, require_bind_eq_ok] at h
  obtain ⟨-, -, -, hnodup, hknown, -⟩ := h
  exact ⟨hnodup, hknown⟩

variable {plan : CollaborationPlan} {task : CollaborationTask}

theorem find?_taskKey (h : task ∈ plan.tasks) :
    plan.tasks.find? (fun item => item.taskKey = task.taskKey) = some task := by
  have hnodup := plan.keys_facts.1
  have hinj := List.inj_on_of_nodup_map hnodup
  rcases hfind : plan.tasks.find? (fun item => item.taskKey = task.taskKey) with _ | found
  · simpa using List.find?_eq_none.mp hfind task h
  · have hkey : found.taskKey = task.taskKey := by simpa using List.find?_some hfind
    exact hfind.trans (congrArg some (hinj (List.mem_of_find?_eq_some hfind) h hkey))

@[simp] theorem dependenciesOf_taskKey
    (h : task ∈ plan.tasks) : plan.dependenciesOf task.taskKey = task.dependencies := by
  rw [dependenciesOf, find?_taskKey h, Option.map_some, Option.getD_some]

/-- The checks of the plan walked over all keys. -/
theorem depths_facts (plan : CollaborationPlan) :
    IsDepthTable plan.tasks plan.depths
      ∧ ∀ task ∈ plan.tasks, ∃ n, plan.depths.get? task.taskKey = some n
          ∧ (n : ℤ) ≤ plan.fields.budget.fields.maxRounds := by
  have h := plan.valid
  simp only [postInit, CollaborationPlanFields.postInit, require_bind_eq_ok] at h
  obtain ⟨-, -, -, -, -, -, -, -, -, -, hwalk⟩ := h
  obtain ⟨rounds, hrounds, hbound⟩ := Py.of_bind hwalk
  have hbound := require_eq_ok.mp hbound
  have hdepths : plan.depths = rounds.2 := by
    rw [depths, tasks, hrounds]
  obtain ⟨htable, hall⟩ := isDepthTable_of_collaborationRounds hrounds
  rw [hdepths]
  refine ⟨htable, fun task htask => ?_⟩
  obtain ⟨n, hn, hle⟩ := hall task htask
  exact ⟨n, hn, by omega⟩

/-- The depth of a key. -/
def depth (plan : CollaborationPlan) (key : Text) : ℕ := (plan.depths.get? key).getD 0

/-- **The layers of a plan.** -/
def layers (plan : CollaborationPlan) : Layers Text where
  keys := plan.fields.keys
  deps := plan.dependenciesOf
  depth := plan.depth
  closed := by
    intro key hkey dependency hdependency
    obtain ⟨task, htask, rfl⟩ := List.mem_map.mp hkey
    rw [dependenciesOf_taskKey htask] at hdependency
    exact plan.keys_facts.2 task htask dependency hdependency
  depth_pos := by
    intro key hkey
    obtain ⟨task, htask, rfl⟩ := List.mem_map.mp hkey
    obtain ⟨n, hn, -⟩ := plan.depths_facts.2 task htask
    obtain ⟨-, -, hpos, -⟩ := plan.depths_facts.1 _ _ hn
    rw [depth, hn]
    exact hpos
  depth_lt := by
    intro key hkey dependency hdependency
    obtain ⟨task, htask, rfl⟩ := List.mem_map.mp hkey
    rw [dependenciesOf_taskKey htask] at hdependency
    obtain ⟨n, hn, -⟩ := plan.depths_facts.2 task htask
    obtain ⟨found, hfound, -, hdeps, -⟩ := plan.depths_facts.1 _ _ hn
    obtain rfl : task = found := Option.some.inj ((find?_taskKey htask).symm.trans hfound)
    obtain ⟨m, hm, hlt⟩ := hdeps dependency hdependency
    rw [depth, depth, hn, hm]
    exact hlt
  exists_below := by
    intro key hkey hdeep
    obtain ⟨task, htask, rfl⟩ := List.mem_map.mp hkey
    obtain ⟨n, hn, -⟩ := plan.depths_facts.2 task htask
    obtain ⟨found, hfound, -, -, hmost⟩ := plan.depths_facts.1 _ _ hn
    obtain rfl : task = found := Option.some.inj ((find?_taskKey htask).symm.trans hfound)
    rw [depth, hn, Option.getD_some] at hdeep
    obtain ⟨dependency, hdependency, hm⟩ := hmost hdeep
    refine ⟨dependency, by rwa [dependenciesOf_taskKey htask], ?_⟩
    rw [depth, depth, hn, hm, Option.getD_some, Option.getD_some]
    omega

theorem depth_le_maxRounds (h : task ∈ plan.tasks) :
    (plan.depth task.taskKey : ℤ) ≤ plan.fields.budget.fields.maxRounds := by
  obtain ⟨n, hn, hle⟩ := plan.depths_facts.2 task h
  rw [depth, hn]
  exact hle

end CollaborationPlan

end FuturesAgentOs
