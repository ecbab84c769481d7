import FuturesAgentOs.AgentOrchestration.Artifacts
import FuturesAgentOs.PyModel.Sorting
import FuturesAgentOs.SharedKernel.AuditChain
import Mathlib.Data.Finset.Sort

namespace FuturesAgentOs

open PyModel

/-!
# Tool permissions

`governance_registry/tool_registry.py`, `agent_orchestration/catalog.py` and
`agent_orchestration/tool_permissions.py`: a call of a tool is permitted by the registry, the
catalog of roles and one of the grants.  Of a role, the model has what the authorizer reads.

* `permits_iff` — a call is permitted exactly when one grant covers it.
-/

/-! ### The registry -/

/-- `ToolPermissionTier`, by its integer. -/
inductive ToolPermissionTier where
  | READ_ONLY
  | RESEARCH_REQUEST
  | PROPOSAL
  | MANDATE_SCOPED_SIMULATION
  | PLAN_APPROVAL
  | PROMOTION
  | ACTIVATION
  deriving DecidableEq

def ToolPermissionTier.value : ToolPermissionTier → ℕ
  | READ_ONLY => 0
  | RESEARCH_REQUEST => 1
  | PROPOSAL => 2
  | MANDATE_SCOPED_SIMULATION => 3
  | PLAN_APPROVAL => 4
  | PROMOTION => 5
  | ACTIVATION => 6

structure ToolRefFields where
  toolId : Text
  version : SchemaVersion
  deriving DecidableEq

instance : Dataclass ToolRefFields where
  postInit f := require (EntityIdFields.matchesNamespace f.toolId)
    (valueError "tool id must be canonical lower_snake_case")

abbrev ToolRef := Frozen ToolRefFields

/-- `str(ref)` -/
def ToolRef.str (r : ToolRef) : Py Text := do
  let version ← r.fields.version.str
  .ok (r.fields.toolId ++ Text.ofChar '@' :: version)

structure ToolDefinitionFields where
  ref : ToolRef
  permissionTier : ToolPermissionTier
  requestSchema : SchemaVersion
  responseSchema : SchemaVersion
  ownerContext : Text
  description : Text

instance : Dataclass ToolDefinitionFields where
  postInit f := require (f.ownerContext ≠ [] ∧ f.description ≠ [])
    (valueError "tool definitions require an owner context and description")

abbrev ToolDefinition := Frozen ToolDefinitionFields

structure ToolRegistryFields where
  version : SchemaVersion
  definitions : List ToolDefinition

instance : Dataclass ToolRegistryFields where
  postInit f := do
    require (f.definitions ≠ []) (valueError "tool registry requires at least one definition")
    require (f.definitions.map fun d => d.fields.ref).Nodup
      (valueError "tool registry cannot contain duplicate tool versions")

abbrev ToolRegistry := Frozen ToolRegistryFields

namespace ToolRegistry

def resolveExact (r : ToolRegistry) (ref : ToolRef) : Option ToolDefinition :=
  r.fields.definitions.find? fun d => decide (d.fields.ref = ref)

def hasToolId (r : ToolRegistry) (toolId : Text) : Bool :=
  r.fields.definitions.any fun d => decide (d.fields.ref.fields.toolId = toolId)

end ToolRegistry

/-! ### The catalogs -/

def AgentRoleId.value : AgentRoleId → Text
  | main => "main"
  | marketRegime => "market_regime"
  | research => "research"
  | strategy => "strategy"
  | portfolio => "portfolio"
  | riskAnalyst => "risk_analyst"
  | executionAdvisor => "execution_advisor"
  | preTradeCritic => "pre_trade_critic"
  | experimentManager => "experiment_manager"
  | postTradeReviewer => "post_trade_reviewer"
  | memoryCurator => "memory_curator"
  | governance => "governance"

structure AgentDefinition where
  roleId : AgentRoleId
  version : SchemaVersion
  declaredTools : List Text

/-- `SchemaVersion(1, minor)` -/
def catalogVersion (minor : ℕ) : SchemaVersion :=
  ⟨⟨1, minor⟩, by
    show SchemaVersionFields.postInit _ = _
    rw [SchemaVersionFields.postInit, require_eq_ok]
    exact ⟨Int.one_nonneg, Int.natCast_nonneg minor⟩⟩

/-- `_definition` -/
def agentDefinition (role : AgentRoleId) (tools : List Text) : AgentDefinition :=
  ⟨role, catalogVersion 5, tools⟩

def agentCatalog : List AgentDefinition := [
  agentDefinition .main ["market_snapshot", "feature_query", "historical_data", "experiment_search"],
  agentDefinition .marketRegime
    ["market_snapshot", "feature_query", "regime_analysis", "news_evidence_query"],
  agentDefinition .research ["market_query", "historical_query", "feature_query", "contract_query",
    "memory_search", "experiment_search", "l0_signal_test", "l1_bar_backtest", "walk_forward_test",
    "cost_slippage_stress", "counterfactual_test"],
  agentDefinition .strategy
    ["market_snapshot", "feature_query", "strategy_compare", "cost_analysis"],
  agentDefinition .portfolio
    ["portfolio_state", "exposure_analysis", "correlation_analysis", "stress_test"],
  agentDefinition .riskAnalyst ["risk_check", "stress_test", "scenario_replay", "contract_info"],
  agentDefinition .executionAdvisor ["execution_simulator", "cost_analysis", "liquidity_profile"],
  agentDefinition .preTradeCritic [],
  agentDefinition .experimentManager
    ["experiment_search", "backtest", "walk_forward_test", "strategy_compare"],
  agentDefinition .postTradeReviewer ["trade_replay", "attribution", "counterfactual_test"],
  agentDefinition .memoryCurator
    ["memory_search", "experiment_search", "lesson_conflict_check", "lesson_decay_check"],
  agentDefinition .governance
    ["registry_query", "experiment_search", "audit_query", "deployment_evidence_query"]]

/-- A catalog under another version. -/
def withVersion (version : SchemaVersion) (catalog : List AgentDefinition) : List AgentDefinition :=
  catalog.map fun d => { d with version := version }

/-- A catalog with other tools for one role. -/
def withTools (role : AgentRoleId) (tools : List Text) (catalog : List AgentDefinition) :
    List AgentDefinition :=
  catalog.map fun d => if d.roleId = role then { d with declaredTools := tools } else d

def catalog16 : List AgentDefinition :=
  withTools .preTradeCritic ["historical_query", "cost_analysis", "stress_test", "parameter_stability"]
    (withVersion (catalogVersion 6) agentCatalog)

def catalog14 : List AgentDefinition :=
  withTools .research ["historical_data", "backtest", "walk_forward_test", "stress_test"]
    (withVersion (catalogVersion 4) agentCatalog)

def catalog13 : List AgentDefinition :=
  withTools .preTradeCritic ["backtest", "cost_analysis", "parameter_stability", "historical_data"]
    (withVersion (catalogVersion 3) catalog14)

def catalog12 : List AgentDefinition :=
  withTools .main ["market_snapshot", "autonomy_mandate_status", "request_authorization_preflight",
      "create_trade_plan_draft"]
    (withVersion (catalogVersion 2) catalog13)

def catalogs : List (SchemaVersion × List AgentDefinition) := [
  (catalogVersion 2, catalog12),
  (catalogVersion 3, catalog13),
  (catalogVersion 4, catalog14),
  (catalogVersion 5, agentCatalog),
  (catalogVersion 6, catalog16)]

def definitionFor (roleId : Text) (version : SchemaVersion) : Py AgentDefinition :=
  match catalogs.lookup version with
  | none => .error (valueError "unsupported catalog version")
  | some catalog =>
    match catalog.find? fun d => decide (d.roleId.value = roleId) with
    | none => .error (valueError "agent role is not present in the versioned catalog")
    | some d => .ok d

def catalog15ExactTools : List Text := ["market_query", "historical_query", "feature_query",
  "contract_query", "memory_search", "experiment_search", "l0_signal_test", "l1_bar_backtest",
  "walk_forward_test", "cost_slippage_stress", "counterfactual_test"]

/-! ### Scopes and grants -/

/-- A character of a scope token after the first. -/
def isScopeCharacter (c : CodePoint) : Bool :=
  isScopeStart c || c ∈ ("_.:/@-" : Text)
where
  /-- `[A-Za-z0-9]` -/
  isScopeStart (c : CodePoint) : Bool :=
    (65 ≤ c.val && c.val ≤ 90) || (97 ≤ c.val && c.val ≤ 122) || (48 ≤ c.val && c.val ≤ 57)

/-- `_SCOPE_TOKEN.fullmatch(value)` -/
def isScopeToken : Text → Bool
  | [] => false
  | c :: rest => isScopeCharacter.isScopeStart c && rest.all isScopeCharacter

inductive SimulationEnvironment where
  | LOCAL
  | TEST
  | STAGING
  | SIM_PROD
  deriving DecidableEq

def SimulationEnvironment.value : SimulationEnvironment → Text
  | LOCAL => "local"
  | TEST => "test"
  | STAGING => "staging"
  | SIM_PROD => "sim_prod"

structure ToolScopeFields where
  accountIds : Finset Text := ∅
  strategyIds : Finset Text := ∅
  instrumentIds : Finset Text := ∅
  policyRefs : Finset Text := ∅
  governedArtifactRefs : Finset Text := ∅
  environments : Finset SimulationEnvironment := ∅
  deriving DecidableEq

instance : Dataclass ToolScopeFields where
  postInit f := require (∀ values ∈ [f.accountIds, f.strategyIds, f.instrumentIds, f.policyRefs,
      f.governedArtifactRefs], ∀ value ∈ values, isScopeToken value = true)
    (valueError "tool scope identifiers must be stable non-empty tokens")

abbrev ToolScope := Frozen ToolScopeFields

namespace ToolScope

/-- `not allowed or (bool(actual) and actual.issubset(allowed))` -/
def Selects {α : Type} [DecidableEq α] (allowed actual : Finset α) : Prop :=
  allowed = ∅ ∨ actual ≠ ∅ ∧ actual ⊆ allowed

instance {α : Type} [DecidableEq α] (allowed actual : Finset α) :
    Decidable (Selects allowed actual) := inferInstanceAs (Decidable (_ ∨ _))

def Contains (s requested : ToolScope) : Prop :=
  Selects s.fields.accountIds requested.fields.accountIds
    ∧ Selects s.fields.strategyIds requested.fields.strategyIds
    ∧ Selects s.fields.instrumentIds requested.fields.instrumentIds
    ∧ Selects s.fields.policyRefs requested.fields.policyRefs
    ∧ Selects s.fields.governedArtifactRefs requested.fields.governedArtifactRefs
    ∧ Selects s.fields.environments requested.fields.environments

instance (s requested : ToolScope) : Decidable (s.Contains requested) :=
  inferInstanceAs (Decidable (_ ∧ _))

def HasFullyBoundedTradingScope (s : ToolScope) : Prop :=
  s.fields.accountIds ≠ ∅ ∧ s.fields.strategyIds ≠ ∅ ∧ s.fields.instrumentIds ≠ ∅
    ∧ s.fields.policyRefs ≠ ∅ ∧ s.fields.environments ≠ ∅

instance (s : ToolScope) : Decidable s.HasFullyBoundedTradingScope :=
  inferInstanceAs (Decidable (_ ∧ _))

def HasFullyBoundedGovernedArtifactScope (s : ToolScope) : Prop :=
  s.fields.governedArtifactRefs ≠ ∅ ∧ s.fields.policyRefs ≠ ∅ ∧ s.fields.environments ≠ ∅

instance (s : ToolScope) : Decidable s.HasFullyBoundedGovernedArtifactScope :=
  inferInstanceAs (Decidable (_ ∧ _))

instance : IsTrans Text fun s t => Text.le s t = true := ⟨fun _ _ _ => Text.le_trans⟩

instance : Std.Antisymm fun s t : Text => Text.le s t = true := ⟨fun _ _ => Text.le_antisymm⟩

instance : Std.Total fun s t : Text => Text.le s t = true := ⟨Text.le_total⟩

/-- `sorted(values)` of a set of strings. -/
def sortedJson (values : Finset Text) : Json :=
  .arr ((values.sort fun s t => Text.le s t = true).map .str)

def toDict (s : ToolScope) : Json := .obj [
  ("account_ids", sortedJson s.fields.accountIds),
  ("strategy_ids", sortedJson s.fields.strategyIds),
  ("instrument_ids", sortedJson s.fields.instrumentIds),
  ("policy_refs", sortedJson s.fields.policyRefs),
  ("governed_artifact_refs", sortedJson s.fields.governedArtifactRefs),
  ("environments", sortedJson (s.fields.environments.image SimulationEnvironment.value))]

end ToolScope

inductive ToolGrantStatus where
  | ACTIVE
  | REVOKED
  | SUSPENDED
  deriving DecidableEq

structure ToolGrantFields where
  grantId : EntityId
  granteeRoleId : Text
  granteeNodeId : Text
  catalogVersion : SchemaVersion
  registryVersion : SchemaVersion
  toolRefs : Finset ToolRef
  maxPermissionTier : ToolPermissionTier
  scope : ToolScope
  status : ToolGrantStatus
  issuedAt : RecordedAt
  expiresAt : RecordedAt
  auditRef : Text
  deriving DecidableEq

instance : Dataclass ToolGrantFields where
  postInit f := do
    require (f.granteeRoleId ≠ [] ∧ isScopeToken f.granteeNodeId = true)
      (valueError "tool grants require a role and canonical node id")
    require (f.toolRefs ≠ ∅) (valueError "tool grants must name exact tool versions")
    require (f.issuedAt < f.expiresAt) (valueError "tool grant expiry must follow issuance")
    require (f.auditRef ≠ []) (valueError "tool grants require an audit reference")
    require (¬ (f.maxPermissionTier ∈ [ToolPermissionTier.MANDATE_SCOPED_SIMULATION, .PLAN_APPROVAL]
        ∧ ¬ f.scope.HasFullyBoundedTradingScope))
      (valueError ("simulation and plan-approval tool grants require bounded account, strategy, "
        ++ "instrument, policy, and environment scope"))
    require (¬ (f.maxPermissionTier ∈ [ToolPermissionTier.PROMOTION, .ACTIVATION]
        ∧ ¬ f.scope.HasFullyBoundedGovernedArtifactScope))
      (valueError ("promotion and activation tool grants require bounded governed-artifact, "
        ++ "policy, and environment scope"))

abbrev ToolGrant := Frozen ToolGrantFields

def ToolGrant.permitsTier (g : ToolGrant) (requested : ToolPermissionTier) : Bool :=
  if g.fields.maxPermissionTier ∈ [ToolPermissionTier.PROMOTION, .ACTIVATION] then
    decide (requested = g.fields.maxPermissionTier)
  else decide (requested.value ≤ g.fields.maxPermissionTier.value)

/-! ### Calls and decisions -/

structure ToolCallRequestFields where
  callId : EntityId
  agentRoleId : Text
  nodeId : Text
  catalogVersion : SchemaVersion
  registryVersion : SchemaVersion
  toolRef : ToolRef
  scope : ToolScope
  calledAt : RecordedAt
  correlationId : EntityId
  trace : TraceContext

instance : Dataclass ToolCallRequestFields where
  postInit f := do
    require (f.agentRoleId ≠ [] ∧ isScopeToken f.nodeId = true)
      (valueError "tool calls require a role and canonical node id")
    require (f.trace.correlationId = f.correlationId)
      (valueError "tool call trace must carry the call correlation id")

abbrev ToolCallRequest := Frozen ToolCallRequestFields

/-- The value of an identifier that may be missing. -/
def idJson : Option EntityId → Json
  | none => .null
  | some id => .str id.str

/-- The payload of the fingerprint. -/
def ToolCallRequest.payload (q : ToolCallRequest) (catalogVersion registryVersion toolRef : Text) :
    Json := .obj [
  ("call_id", .str q.fields.callId.str),
  ("agent_role_id", .str q.fields.agentRoleId),
  ("node_id", .str q.fields.nodeId),
  ("catalog_version", .str catalogVersion),
  ("registry_version", .str registryVersion),
  ("tool_ref", .str toolRef),
  ("scope", q.fields.scope.toDict),
  ("called_at", .str q.fields.calledAt.text),
  ("correlation_id", .str q.fields.correlationId.str),
  ("trace_id", .str q.fields.trace.traceId.str),
  ("causation_id", idJson q.fields.trace.causationId)]

def ToolCallRequest.fingerprint [Hashlib] (q : ToolCallRequest) : Py Text := do
  let catalogVersion ← q.fields.catalogVersion.str
  let registryVersion ← q.fields.registryVersion.str
  let toolRef ← q.fields.toolRef.str
  let digest ← canonicalSha256 (q.payload catalogVersion registryVersion toolRef)
  .ok (Text.ofString "sha256:" ++ digest)

/-- The versions of the request have a text. -/
def ToolCallRequest.FitsStr (q : ToolCallRequest) : Prop :=
  q.fields.catalogVersion.FitsStr ∧ q.fields.registryVersion.FitsStr
    ∧ q.fields.toolRef.fields.version.FitsStr

instance (q : ToolCallRequest) : Decidable q.FitsStr := inferInstanceAs (Decidable (_ ∧ _))

inductive ToolAuthorizationOutcome where
  | PERMIT
  | DENY
  deriving DecidableEq

/-- The members of `ReasonCode` for tools. -/
inductive ToolReasonCode where
  | TOOL_AUTHORIZED
  | TOOL_NOT_REGISTERED
  | TOOL_VERSION_MISMATCH
  | TOOL_REGISTRY_VERSION_MISMATCH
  | TOOL_ROLE_MISMATCH
  | TOOL_CATALOG_VERSION_MISMATCH
  | TOOL_NOT_DECLARED_FOR_ROLE
  | TOOL_GRANT_MISSING
  | TOOL_GRANT_INACTIVE
  | TOOL_GRANT_EXPIRED
  | TOOL_NODE_SCOPE_MISMATCH
  | TOOL_PERMISSION_TIER_DENIED
  | TOOL_SCOPE_MISMATCH
  deriving DecidableEq

structure ToolAuthorizationDecisionFields where
  outcome : ToolAuthorizationOutcome
  reasonCode : ToolReasonCode
  callId : EntityId
  correlationId : EntityId
  trace : TraceContext
  agentRoleId : Text
  nodeId : Text
  toolRef : ToolRef
  requestFingerprint : Text
  evaluatedAt : RecordedAt
  matchedGrantId : Option EntityId := none

instance : Dataclass ToolAuthorizationDecisionFields where
  postInit f := do
    require (f.trace.correlationId = f.correlationId)
      (valueError "tool authorization decision trace must carry the call correlation id")
    require (¬ (f.outcome = .PERMIT ∧ f.matchedGrantId = none))
      (valueError "permitted tool calls require the matched ToolGrant audit reference")
    require (¬ (f.outcome = .DENY ∧ f.matchedGrantId ≠ none))
      (valueError "denied tool calls must not imply that a ToolGrant was consumed")

abbrev ToolAuthorizationDecision := Frozen ToolAuthorizationDecisionFields

/-- **One grant that is everything the call needs.** -/
structure ToolGrant.Covers (g : ToolGrant) (q : ToolCallRequest) (definition : ToolDefinition) :
    Prop where
  role : g.fields.granteeRoleId = q.fields.agentRoleId
  catalog : g.fields.catalogVersion = q.fields.catalogVersion
  registry : g.fields.registryVersion = q.fields.registryVersion
  active : g.fields.status = .ACTIVE
  current : g.fields.issuedAt ≤ q.fields.calledAt ∧ q.fields.calledAt < g.fields.expiresAt
  node : g.fields.granteeNodeId = q.fields.nodeId
  tool : q.fields.toolRef ∈ g.fields.toolRefs
  tier : g.permitsTier definition.fields.permissionTier = true
  scope : g.fields.scope.Contains q.fields.scope

/-! ### The authorizer -/

structure ToolAuthorizer where
  registry : ToolRegistry
  grants : List ToolGrant

namespace ToolAuthorizer

/-- The grants have different identifiers. -/
def Distinct (grants : List ToolGrant) : Prop := (grants.map fun g => g.fields.grantId).Nodup

instance (grants : List ToolGrant) : Decidable (Distinct grants) :=
  inferInstanceAs (Decidable (List.Nodup _))

/-- The grants in the order of the authorizer. -/
def sorted (grants : List ToolGrant) : List ToolGrant :=
  grants.mergeSort fun g h => Text.le g.fields.grantId.str h.fields.grantId.str

/-- `ToolAuthorizer(registry, grants)` -/
def make (registry : ToolRegistry) (grants : List ToolGrant) : Py ToolAuthorizer := do
  require (Distinct grants) (valueError "tool grants must have unique identifiers")
  .ok ⟨registry, sorted grants⟩

/-- A filter: the grants that pass, or the reason of a denial when there are none. -/
def narrow (grants : List ToolGrant) (p : ToolGrant → Bool) (reason : ToolReasonCode) :
    Except ToolReasonCode (List ToolGrant) :=
  if grants.filter p = [] then .error reason else .ok (grants.filter p)

/-- `if not c: return deny(reason)` -/
def denyUnless (c : Prop) [Decidable c] (reason : ToolReasonCode) : Except ToolReasonCode Unit :=
  if c then .ok () else .error reason

/-- The exact definition of the tool, or the reason of a denial. -/
def resolve (a : ToolAuthorizer) (q : ToolCallRequest) : Except ToolReasonCode ToolDefinition :=
  match a.registry.resolveExact q.fields.toolRef with
  | some d => .ok d
  | none => .error (if a.registry.hasToolId q.fields.toolRef.fields.toolId then
      .TOOL_VERSION_MISMATCH else .TOOL_NOT_REGISTERED)

/-- The role of the caller, or the reason of a denial. -/
def roleOf (q : ToolCallRequest) : Except ToolReasonCode AgentDefinition :=
  match definitionFor q.fields.agentRoleId q.fields.catalogVersion with
  | .ok role => .ok role
  | .error _ =>
    match definitionFor "main" q.fields.catalogVersion with
    | .ok _ => .error .TOOL_ROLE_MISMATCH
    | .error _ => .error .TOOL_CATALOG_VERSION_MISMATCH

/-- What comes before the grants: the definition of the tool. -/
def admitted (a : ToolAuthorizer) (q : ToolCallRequest) :
    Except ToolReasonCode ToolDefinition := do
  denyUnless (q.fields.registryVersion = a.registry.fields.version) .TOOL_REGISTRY_VERSION_MISMATCH
  let definition ← a.resolve q
  let role ← roleOf q
  denyUnless (q.fields.catalogVersion = role.version) .TOOL_CATALOG_VERSION_MISMATCH
  denyUnless (q.fields.toolRef.fields.toolId ∈ role.declaredTools) .TOOL_NOT_DECLARED_FOR_ROLE
  denyUnless (¬ (q.fields.catalogVersion = catalogVersion 5
      ∧ q.fields.toolRef.fields.toolId ∈ catalog15ExactTools
      ∧ q.fields.toolRef.fields.version ≠ catalogVersion 5))
    .TOOL_VERSION_MISMATCH
  .ok definition

/-- The grants that survive every filter. -/
def matching (a : ToolAuthorizer) (q : ToolCallRequest) (definition : ToolDefinition) :
    Except ToolReasonCode (List ToolGrant) := do
  let roleGrants ← narrow a.grants (fun g => decide (g.fields.granteeRoleId = q.fields.agentRoleId))
    .TOOL_GRANT_MISSING
  let catalogGrants ← narrow roleGrants
    (fun g => decide (g.fields.catalogVersion = q.fields.catalogVersion))
    .TOOL_CATALOG_VERSION_MISMATCH
  let registryGrants ← narrow catalogGrants
    (fun g => decide (g.fields.registryVersion = q.fields.registryVersion))
    .TOOL_REGISTRY_VERSION_MISMATCH
  let activeRoleGrants ← narrow registryGrants (fun g => decide (g.fields.status = .ACTIVE))
    .TOOL_GRANT_INACTIVE
  let currentGrants ← narrow activeRoleGrants
    (fun g => decide (g.fields.issuedAt ≤ q.fields.calledAt ∧ q.fields.calledAt < g.fields.expiresAt))
    .TOOL_GRANT_EXPIRED
  let nodeGrants ← narrow currentGrants (fun g => decide (g.fields.granteeNodeId = q.fields.nodeId))
    .TOOL_NODE_SCOPE_MISMATCH
  let exactToolGrants ← narrow nodeGrants (fun g => decide (q.fields.toolRef ∈ g.fields.toolRefs))
    .TOOL_VERSION_MISMATCH
  let tierGrants ← narrow exactToolGrants
    (fun g => g.permitsTier definition.fields.permissionTier) .TOOL_PERMISSION_TIER_DENIED
  narrow tierGrants (fun g => decide (g.fields.scope.Contains q.fields.scope)) .TOOL_SCOPE_MISMATCH

/-- The first grant that survives, or the reason of the denial. -/
def evaluate (a : ToolAuthorizer) (q : ToolCallRequest) :
    Except ToolReasonCode (Option ToolGrant) := do
  let definition ← a.admitted q
  let scopeGrants ← a.matching q definition
  .ok scopeGrants.head?

/-- The decision about a request. -/
def decision (q : ToolCallRequest) (fingerprint : Text) (outcome : ToolAuthorizationOutcome)
    (reason : ToolReasonCode) (matched : Option EntityId) : Py ToolAuthorizationDecision :=
  Frozen.make {
    outcome := outcome
    reasonCode := reason
    callId := q.fields.callId
    correlationId := q.fields.correlationId
    trace := q.fields.trace
    agentRoleId := q.fields.agentRoleId
    nodeId := q.fields.nodeId
    toolRef := q.fields.toolRef
    requestFingerprint := fingerprint
    evaluatedAt := q.fields.calledAt
    matchedGrantId := matched }

def authorize [Hashlib] (a : ToolAuthorizer) (q : ToolCallRequest) :
    Py ToolAuthorizationDecision := do
  let fingerprint ← q.fingerprint
  match a.evaluate q with
  | .error reason => decision q fingerprint .DENY reason none
  | .ok grant =>
    decision q fingerprint .PERMIT .TOOL_AUTHORIZED (grant.map fun g => g.fields.grantId)

/-! ### When a call is permitted -/

section

variable {grants xs : List ToolGrant} {p : ToolGrant → Bool} {reason : ToolReasonCode}

theorem narrow_eq_ok : narrow grants p reason = .ok xs ↔ grants.filter p = xs ∧ xs ≠ [] := by
  unfold narrow
  split
  · rename_i hnone
    rw [hnone]
    constructor
    · rintro ⟨⟩
    · rintro ⟨rfl, hne⟩
      exact absurd rfl hne
  · rename_i hsome
    rw [Except.ok.injEq]
    constructor
    · rintro rfl
      exact ⟨rfl, hsome⟩
    · exact fun h => h.1

theorem narrow_of_mem {g : ToolGrant} (hg : g ∈ grants) (hp : p g = true) :
    narrow grants p reason = .ok (grants.filter p) := by
  rw [narrow_eq_ok]
  exact ⟨rfl, List.ne_nil_of_mem (List.mem_filter.mpr ⟨hg, hp⟩)⟩

theorem denyUnless_eq_ok {c : Prop} [Decidable c] {u : Unit} :
    denyUnless c reason = .ok u ↔ c := by
  unfold denyUnless
  split <;> simp_all

end

variable {a : ToolAuthorizer} {q : ToolCallRequest} {definition : ToolDefinition}

variable {grants : List ToolGrant} {registry : ToolRegistry}

/-- **What survives every filter** covers the call. -/
theorem covers_of_matching (h : a.matching q definition = .ok grants) :
    grants ≠ [] ∧ ∀ g ∈ grants, g ∈ a.grants ∧ g.Covers q definition := by
  obtain ⟨_, hrole, h⟩ := except_bind_eq_ok.mp h
  obtain ⟨_, hcatalog, h⟩ := except_bind_eq_ok.mp h
  obtain ⟨_, hregistry, h⟩ := except_bind_eq_ok.mp h
  obtain ⟨_, hactive, h⟩ := except_bind_eq_ok.mp h
  obtain ⟨_, hcurrent, h⟩ := except_bind_eq_ok.mp h
  obtain ⟨_, hnode, h⟩ := except_bind_eq_ok.mp h
  obtain ⟨_, htool, h⟩ := except_bind_eq_ok.mp h
  obtain ⟨_, htier, hscope⟩ := except_bind_eq_ok.mp h
  rw [narrow_eq_ok] at hrole hcatalog hregistry hactive hcurrent hnode htool htier hscope
  refine ⟨hscope.2, fun g hg => ?_⟩
  rw [← hscope.1, ← htier.1, ← htool.1, ← hnode.1, ← hcurrent.1, ← hactive.1, ← hregistry.1,
    ← hcatalog.1, ← hrole.1] at hg
  simp only [List.mem_filter, decide_eq_true_eq] at hg
  obtain ⟨⟨⟨⟨⟨⟨⟨⟨⟨hmem, h1⟩, h2⟩, h3⟩, h4⟩, h5⟩, h6⟩, h7⟩, h8⟩, h9⟩ := hg
  exact ⟨hmem, h1, h2, h3, h4, h5, h6, h7, h8, h9⟩

/-- A filter that the grant passes, and those after it. -/
theorem narrow_bind_of_mem {g : ToolGrant} {p : ToolGrant → Bool}
    {reason : ToolReasonCode} {f : List ToolGrant → Except ToolReasonCode (List ToolGrant)}
    (hg : g ∈ grants) (hp : p g = true)
    (hrest : g ∈ grants.filter p → ∃ xs, f (grants.filter p) = .ok xs) :
    ∃ xs, (narrow grants p reason >>= f) = .ok xs := by
  obtain ⟨xs, hxs⟩ := hrest (List.mem_filter.mpr ⟨hg, hp⟩)
  exact ⟨xs, except_bind_eq_ok.mpr ⟨_, narrow_of_mem hg hp, hxs⟩⟩

/-- **A grant that covers the call** survives every filter. -/
theorem matching_of_covers {g : ToolGrant} (hg : g ∈ a.grants) (h : g.Covers q definition) :
    ∃ grants, a.matching q definition = .ok grants := by
  unfold matching
  refine narrow_bind_of_mem hg (decide_eq_true h.role) fun hg => ?_
  refine narrow_bind_of_mem hg (decide_eq_true h.catalog) fun hg => ?_
  refine narrow_bind_of_mem hg (decide_eq_true h.registry) fun hg => ?_
  refine narrow_bind_of_mem hg (decide_eq_true h.active) fun hg => ?_
  refine narrow_bind_of_mem hg (decide_eq_true h.current) fun hg => ?_
  refine narrow_bind_of_mem hg (decide_eq_true h.node) fun hg => ?_
  refine narrow_bind_of_mem hg (decide_eq_true h.tool) fun hg => ?_
  refine narrow_bind_of_mem hg h.tier fun hg => ?_
  exact ⟨_, narrow_of_mem hg (decide_eq_true h.scope)⟩

/-- What the registry and the catalog ask of a call, whatever the grants. -/
structure Admits (registry : ToolRegistry) (q : ToolCallRequest) (definition : ToolDefinition)
    (role : AgentDefinition) : Prop where
  registryVersion : q.fields.registryVersion = registry.fields.version
  registered : registry.resolveExact q.fields.toolRef = some definition
  found : definitionFor q.fields.agentRoleId q.fields.catalogVersion = .ok role
  catalog : q.fields.catalogVersion = role.version
  declared : q.fields.toolRef.fields.toolId ∈ role.declaredTools
  exact15 : q.fields.catalogVersion = catalogVersion 5 →
    q.fields.toolRef.fields.toolId ∈ catalog15ExactTools →
      q.fields.toolRef.fields.version = catalogVersion 5

theorem resolve_eq_ok : a.resolve q = .ok definition
    ↔ a.registry.resolveExact q.fields.toolRef = some definition := by
  unfold resolve
  split <;> simp_all

theorem roleOf_eq_ok {role : AgentDefinition} : roleOf q = .ok role
    ↔ definitionFor q.fields.agentRoleId q.fields.catalogVersion = .ok role := by
  unfold roleOf
  split
  · simp_all
  · split <;> simp_all

/-- **What comes before the grants.** -/
theorem admitted_eq_ok : a.admitted q = .ok definition
    ↔ ∃ role, Admits a.registry q definition role := by
  simp only [admitted, except_bind_eq_ok, denyUnless_eq_ok, resolve_eq_ok, roleOf_eq_ok, Except.ok.injEq]
  constructor
  · rintro ⟨-, hregistry, _, hregistered, role, hrole, -, hcatalog, -, hdeclared, -, hexact, rfl⟩
    refine ⟨role, hregistry, hregistered, hrole, hcatalog, hdeclared, fun h5 hmem => ?_⟩
    by_contra hne
    exact hexact ⟨h5, hmem, hne⟩
  · rintro ⟨role, h⟩
    exact ⟨(), h.registryVersion, definition, h.registered, role, h.found, (), h.catalog, (), h.declared, (),
      fun hnot => hnot.2.2 (h.exact15 hnot.1 hnot.2.1), rfl⟩

/-- **What the evaluation finds.** -/
theorem evaluate_eq_ok : (∃ grant, a.evaluate q = .ok grant)
    ↔ ∃ definition role, Admits a.registry q definition role
      ∧ ∃ g ∈ a.grants, g.Covers q definition := by
  constructor
  · rintro ⟨grant, h⟩
    obtain ⟨definition, hadmitted, h⟩ := except_bind_eq_ok.mp h
    obtain ⟨grants, hmatching, -⟩ := except_bind_eq_ok.mp h
    obtain ⟨role, hadmits⟩ := admitted_eq_ok.mp hadmitted
    obtain ⟨hne, hcovers⟩ := covers_of_matching hmatching
    obtain ⟨g, hg⟩ := List.exists_mem_of_ne_nil _ hne
    exact ⟨definition, role, hadmits, g, hcovers g hg⟩
  · rintro ⟨definition, role, hadmits, g, hg, hcovers⟩
    obtain ⟨grants, hmatching⟩ := matching_of_covers hg hcovers
    exact ⟨grants.head?, except_bind_eq_ok.mpr ⟨definition, admitted_eq_ok.mpr ⟨role, hadmits⟩,
      except_bind_eq_ok.mpr ⟨grants, hmatching, rfl⟩⟩⟩

/-- A grant that is found is one that covers the call. -/
theorem evaluate_isSome {grant : Option ToolGrant} (h : a.evaluate q = .ok grant) :
    ∃ g, grant = some g ∧ g ∈ a.grants := by
  obtain ⟨definition, -, h⟩ := except_bind_eq_ok.mp h
  obtain ⟨grants, hmatching, h⟩ := except_bind_eq_ok.mp h
  obtain ⟨hne, hcovers⟩ := covers_of_matching hmatching
  obtain ⟨g, rest, rfl⟩ := List.exists_cons_of_ne_nil hne
  exact ⟨g, (Except.ok.inj h).symm, (hcovers g List.mem_cons_self).1⟩

theorem trace_eq (q : ToolCallRequest) : q.fields.trace.correlationId = q.fields.correlationId := by
  have h := q.valid
  simp only [postInit, check_bind_eq_ok, require_eq_ok] at h
  exact h.2

variable [Hashlib]

/-- **The fingerprint** fails for a version without a text only. -/
theorem fingerprint_cases (q : ToolCallRequest) :
    (q.FitsStr ∧ ∃ fingerprint, q.fingerprint = .ok fingerprint)
      ∨ ¬ q.FitsStr ∧ ∃ e, q.fingerprint = .error e := by
  have hsorted : ∀ values, (ToolScope.sortedJson values).isWritable = true := by
    intro values
    rw [ToolScope.sortedJson, Json.isWritable, Json.areWritable_iff]
    intro v hv
    obtain ⟨text, -, rfl⟩ := List.mem_map.mp hv
    rfl
  have hid : ∀ id, (idJson id).isWritable = true := by
    intro id
    cases id <;> rfl
  have hpayload : ∀ s t u, (q.payload s t u).isWritable = true := by
    intro s t u
    simp [ToolCallRequest.payload, ToolScope.toDict, Json.isWritable, Json.membersWritable, hsorted,
      hid]
  by_cases hfits : q.FitsStr
  · obtain ⟨digest, hdigest, -⟩ := exists_canonicalSha256_of_isWritable (hpayload
      q.fields.catalogVersion.text q.fields.registryVersion.text
      (q.fields.toolRef.fields.toolId ++ Text.ofChar '@' :: q.fields.toolRef.fields.version.text))
    refine .inl ⟨hfits, Text.ofString "sha256:" ++ digest, ?_⟩
    rw [ToolCallRequest.fingerprint, SchemaVersion.str_of_fits hfits.1, Py.ok_bind,
      SchemaVersion.str_of_fits hfits.2.1, Py.ok_bind, ToolRef.str,
      SchemaVersion.str_of_fits hfits.2.2, Py.ok_bind, Py.ok_bind, hdigest, Py.ok_bind]
  · refine .inr ⟨hfits, ?_⟩
    rcases hfingerprint : q.fingerprint with e | fingerprint
    · exact ⟨e, rfl⟩
    · obtain ⟨_, hcatalog, h⟩ := Py.of_bind hfingerprint
      obtain ⟨_, hregistry, h⟩ := Py.of_bind h
      obtain ⟨_, htool, -⟩ := Py.of_bind h
      obtain ⟨_, htool, -⟩ := Py.of_bind htool
      exact absurd ⟨SchemaVersion.fits_of_str hcatalog, SchemaVersion.fits_of_str hregistry,
        SchemaVersion.fits_of_str htool⟩ hfits

/-- **`authorize` decides**, for or against, unless a version has no text. -/
theorem authorize_permits (a : ToolAuthorizer) (q : ToolCallRequest) :
    (∃ d, a.authorize q = .ok d ∧ d.fields.outcome = .PERMIT)
      ↔ q.FitsStr ∧ ∃ grant, a.evaluate q = .ok grant := by
  rcases fingerprint_cases q with ⟨hfits, fingerprint, hfingerprint⟩ | ⟨hfits, e, hfingerprint⟩
  · have htrace := trace_eq q
    rw [authorize, hfingerprint, Py.ok_bind, and_iff_right hfits]
    cases heval : a.evaluate q with
    | error reason =>
      constructor
      · rintro ⟨d, hd, hout⟩
        rw [Frozen.make_eq_ok.mp hd] at hout
        cases hout
      · rintro ⟨_, ⟨⟩⟩
    | ok grant =>
      obtain ⟨g, rfl, -⟩ := evaluate_isSome heval
      refine ⟨fun _ => ⟨_, rfl⟩, fun _ => ⟨⟨_, ?_⟩, Frozen.make_of_valid ?_, rfl⟩⟩ <;>
        simp [postInit, htrace, check_bind_eq_ok]
  · rw [authorize, hfingerprint, Py.error_bind]
    constructor
    · rintro ⟨_, ⟨⟩, _⟩
    · exact fun h => absurd h.1 hfits

/-! ### The answer of a set of grants -/

/-- `ToolAuthorizer(registry, grants).authorize(request)` -/
def answer (registry : ToolRegistry) (grants : List ToolGrant) (q : ToolCallRequest) :
    Py ToolAuthorizationDecision := do
  let a ← make registry grants
  a.authorize q

/-- The answer is a permission. -/
def Permits (registry : ToolRegistry) (grants : List ToolGrant) (q : ToolCallRequest) : Prop :=
  ∃ d, answer registry grants q = .ok d ∧ d.fields.outcome = .PERMIT

theorem answer_of_distinct {q : ToolCallRequest}
    (h : Distinct grants) : answer registry grants q = authorize ⟨registry, sorted grants⟩ q := by
  rw [answer, make, require_of_pos h]
  rfl

/-- **One grant permits**, and which ones there are besides does not matter. -/
theorem permits_of_distinct {q : ToolCallRequest} (h : Distinct grants) : Permits registry grants q
      ↔ q.FitsStr ∧ ∃ definition role, Admits registry q definition role
        ∧ ∃ g ∈ grants, g.Covers q definition := by
  have hmem : ∀ g, g ∈ sorted grants ↔ g ∈ grants := fun g =>
    (List.mergeSort_perm _ _).mem_iff
  rw [Permits, answer_of_distinct h, authorize_permits, evaluate_eq_ok]
  simp only [hmem]

/-- The order of the grants is of no account. -/
theorem answer_eq_of_perm {grants' : List ToolGrant}
    {q : ToolCallRequest} (h : grants'.Perm grants) :
    answer registry grants' q = answer registry grants q := by
  by_cases hdistinct : Distinct grants
  · have hdistinct' : Distinct grants' := (h.map _).nodup_iff.mpr hdistinct
    have hsorted : sorted grants' = sorted grants := by
      refine mergeSort_eq_of_perm (fun _ _ _ => Text.le_trans)
        (fun g h => by rw [Bool.or_eq_true]; exact Text.le_total _ _) ?_ h
      intro g hg g' hg' hle hge
      have hid : g.fields.grantId = g'.fields.grantId :=
        EntityId.str_inj (Text.le_antisymm hle hge)
      exact List.inj_on_of_nodup_map hdistinct' hg hg' hid
    rw [answer_of_distinct hdistinct, answer_of_distinct hdistinct', hsorted]
  · have hdistinct' : ¬ Distinct grants' := fun h' => hdistinct ((h.map _).nodup_iff.mp h')
    rw [answer, answer, make, make, require_of_neg hdistinct, require_of_neg hdistinct']
    rfl

/-- **A call is permitted exactly when one grant covers it**, and its registry, its catalog and its
role admit it.  The order of the grants is of no account, and more of them take nothing away. -/
theorem permits_iff (registry : ToolRegistry) (grants : List ToolGrant) (q : ToolCallRequest)
    (h : Distinct grants) :
    (Permits registry grants q
        ↔ q.FitsStr ∧ ∃ definition role, Admits registry q definition role
          ∧ ∃ g ∈ grants, g.Covers q definition)
      ∧ (∀ grants', grants'.Perm grants → answer registry grants' q = answer registry grants q)
      ∧ ∀ grants', Distinct grants' → grants ⊆ grants' → Permits registry grants q →
        Permits registry grants' q := by
  refine ⟨permits_of_distinct h, fun grants' hperm => answer_eq_of_perm hperm,
    fun grants' h' hsubset hpermits => ?_⟩
  obtain ⟨hfits, definition, role, hadmits, g, hg, hcovers⟩ := (permits_of_distinct h).mp hpermits
  exact (permits_of_distinct h').mpr ⟨hfits, definition, role, hadmits, g, hsubset hg, hcovers⟩

end ToolAuthorizer

/-! ### An older version of a tool -/

namespace ToolAuthorizer

/-- A version of `feature_query`. -/
def featureQuery (minor : ℕ) : ToolRef := ⟨⟨"feature_query", catalogVersion minor⟩, rfl⟩

/-- The definition of a version. -/
def featureQueryDefinition (minor : ℕ) : ToolDefinition :=
  ⟨{ ref := featureQuery minor
     permissionTier := .READ_ONLY
     requestSchema := catalogVersion minor
     responseSchema := catalogVersion minor
     ownerContext := "Market Intelligence"
     description := "V0 static contract for feature_query" }, rfl⟩

/-- A registry with both versions of the tool. -/
def twoVersions : ToolRegistry :=
  ⟨⟨catalogVersion 1, [featureQueryDefinition 0, featureQueryDefinition 5]⟩, by decide⟩

/-- The time at hour `hour`. -/
def atHour (hour : Fin 24) : RecordedAt :=
  ⟨.of 2026 7 13 (Eq.refl true), hour, 0, 0, 0⟩

/-- A grant of both versions to the main role. -/
def featureQueryGrant : ToolGrant :=
  ⟨{ grantId := .epoch "tool_grant" 0 0 (Eq.refl true)
     granteeRoleId := "main"
     granteeNodeId := "node-1"
     catalogVersion := catalogVersion 5
     registryVersion := catalogVersion 1
     toolRefs := {featureQuery 0, featureQuery 5}
     maxPermissionTier := .READ_ONLY
     scope := ⟨{}, by decide⟩
     status := .ACTIVE
     issuedAt := atHour 8
     expiresAt := atHour 10
     auditRef := "audit" }, by decide⟩

/-- A call of a version by the main role. -/
def featureQueryCall (minor : ℕ) : ToolCallRequest :=
  ⟨{ callId := .epoch "tool_call" 0 0 (Eq.refl true)
     agentRoleId := "main"
     nodeId := "node-1"
     catalogVersion := catalogVersion 5
     registryVersion := catalogVersion 1
     toolRef := featureQuery minor
     scope := ⟨{}, by decide⟩
     calledAt := atHour 9
     correlationId := .epoch "correlation" 0 0 (Eq.refl true)
     trace := ⟨.epoch "correlation" 0 0 (Eq.refl true), .epoch "trace" 0 0 (Eq.refl true), none⟩ }, rfl⟩

theorem covers_featureQueryCall {minor : ℕ} (h : minor = 0 ∨ minor = 5) :
    featureQueryGrant.Covers (featureQueryCall minor) (featureQueryDefinition minor) := by
  rcases h with rfl | rfl <;>
    exact ⟨rfl, rfl, rfl, rfl, by decide, rfl, by decide, rfl, by decide⟩

theorem permits_iff_featureQuery : Permits twoVersions [featureQueryGrant] (featureQueryCall 5) := by
  refine (permits_iff twoVersions [featureQueryGrant] (featureQueryCall 5) (by decide)).1.mpr
    ⟨by decide, featureQueryDefinition 5, agentDefinition .main ["market_snapshot", "feature_query",
      "historical_data", "experiment_search"], ⟨rfl, rfl, rfl, rfl, by decide, by decide⟩,
      featureQueryGrant, List.mem_singleton_self _, covers_featureQueryCall (.inr rfl)⟩

/-- A call that a grant covers, of a tool that is registered and declared, and that is denied. -/
theorem denies_older_version :
    (featureQueryCall 0).fields.registryVersion = twoVersions.fields.version
      ∧ twoVersions.resolveExact (featureQuery 0) = some (featureQueryDefinition 0)
      ∧ (∃ role, definitionFor "main" (catalogVersion 5) = .ok role
        ∧ role.version = catalogVersion 5 ∧ ("feature_query" : Text) ∈ role.declaredTools)
      ∧ featureQueryGrant.Covers (featureQueryCall 0) (featureQueryDefinition 0)
      ∧ ¬ Permits twoVersions [featureQueryGrant] (featureQueryCall 0) := by
  refine ⟨rfl, rfl, ⟨agentDefinition .main ["market_snapshot", "feature_query",
      "historical_data", "experiment_search"], rfl, rfl, by decide⟩,
    covers_featureQueryCall (.inl rfl), fun h => ?_⟩
  obtain ⟨-, definition, role, hadmits, -⟩ := (permits_of_distinct (by decide)).mp h
  exact absurd (hadmits.exact15 rfl (by decide)) (by decide)

end ToolAuthorizer

end FuturesAgentOs
