import FuturesAgentOs.SharedKernel.Contracts
import FuturesAgentOs.SharedKernel.Ids
import FuturesAgentOs.SharedKernel.Time

namespace FuturesAgentOs

open PyModel

/-!
# Artifact references

`agent_orchestration/catalog.py` and `contracts.py`: the logical agent roles, the kinds of
artifacts they exchange, and the immutable reference to an artifact by its content.
-/

inductive AgentRoleId where
  | main
  | marketRegime
  | research
  | strategy
  | portfolio
  | riskAnalyst
  | executionAdvisor
  | preTradeCritic
  | experimentManager
  | postTradeReviewer
  | memoryCurator
  | governance
  deriving DecidableEq

inductive ArtifactKind where
  | marketSnapshot
  | featureObservation
  | regimeAssessment
  | researchBrief
  | marketStateAssessment
  | hypothesis
  | researchPlan
  | experimentRequest
  | evidenceSynthesis
  | researchDiagnostic
  | leakageAssessment
  | riskRewardAnalysis
  | historicalFailures
  | strategyCandidate
  | tradePlanDraft
  | critique
  | portfolioSnapshot
  | correlationAssessment
  | strategyBudget
  | portfolioProposal
  | riskPreflight
  | stressTestResult
  | riskAssessment
  | executionAlgorithmActivation
  | executionSimulationResult
  | liquidityProfile
  | costAnalysis
  | executionRecommendation
  | preTradeCritique
  | tradeReview
  | reflection
  | experimentPlan
  | lessonCandidate
  | changeProposal
  | decisionDigest
  | escalationRequest
  deriving DecidableEq

structure ArtifactRefFields where
  artifactId : EntityId
  artifactKind : ArtifactKind
  schemaVersion : SchemaVersion
  contentHash : Text
  createdAt : RecordedAt
  asOf : RecordedAt
  deriving DecidableEq

namespace ArtifactRefFields

def allowedNamespaces : List Text :=
  ["artifact", "dataset", "feature_observation", "market_snapshot", "market_state_assessment",
    "regime_assessment", "hypothesis", "evidence_synthesis", "experiment_request",
    "research_synthesis", "critique", "portfolio_snapshot", "correlation_assessment",
    "strategy_budget", "portfolio_proposal", "risk_preflight", "stress_test_result",
    "risk_assessment", "execution_algorithm_activation", "execution_simulation_result",
    "liquidity_profile", "cost_analysis", "leakage_assessment", "risk_reward_analysis",
    "historical_failures", "pre_trade_critique", "signal_result", "critique_diagnostic",
    "research_tool_result"]

/-- `_SHA256.fullmatch(text)` -/
def IsContentHash (text : Text) : Prop :=
  text.take 7 = ("sha256:" : Text) ∧ Text.IsHexDigest (text.drop 7)

instance (text : Text) : Decidable (IsContentHash text) := inferInstanceAs (Decidable (_ ∧ _))

def postInit (f : ArtifactRefFields) : Py Unit := do
  require (IsContentHash f.contentHash)
    (valueError "artifact content_hash must be a canonical sha256 digest")
  require (f.artifactId.nspace ∈ allowedNamespaces)
    (valueError "artifact reference has an invalid identity namespace")
  require (¬ (f.artifactId.nspace = ("critique" : Text) ∧ f.artifactKind ≠ .critique))
    (valueError "critique identity can only reference a critique artifact")
  require (f.asOf ≤ f.createdAt) (valueError "artifact as_of cannot be after created_at")

instance : Dataclass ArtifactRefFields := ⟨postInit⟩

end ArtifactRefFields

/-- A content-addressed immutable artifact reference. -/
abbrev ArtifactRef := Frozen ArtifactRefFields

end FuturesAgentOs
