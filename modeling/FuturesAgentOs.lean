import FuturesAgentOs.AccountingSettlement.AuditCatchUp
import FuturesAgentOs.AccountingSettlement.EventLog
import FuturesAgentOs.AccountingSettlement.OldestFirst
import FuturesAgentOs.AccountingSettlement.StaleSettlement
import FuturesAgentOs.AccountingSettlement.TradeEpisode
import FuturesAgentOs.AgentOrchestration.AutonomyRecovery
import FuturesAgentOs.AgentOrchestration.AutonomyRepositories
import FuturesAgentOs.AgentOrchestration.CycleRuns
import FuturesAgentOs.AgentOrchestration.ParallelTermination
import FuturesAgentOs.AgentOrchestration.QualificationRegistry
import FuturesAgentOs.AgentOrchestration.ToolPermissions
import FuturesAgentOs.AgentOrchestration.WorkflowPoison
import FuturesAgentOs.ChannelGateway.DeliveryAttempts
import FuturesAgentOs.ChannelGateway.FencingTokens
import FuturesAgentOs.ChannelGateway.InboundWorker
import FuturesAgentOs.ChannelGateway.WatchWorker
import FuturesAgentOs.Decision.BasisIssuance
import FuturesAgentOs.Decision.MandateLifecycle
import FuturesAgentOs.Decision.ManualTestReports
import FuturesAgentOs.Decision.ReferenceGraph
import FuturesAgentOs.Decision.SubmitRuns
import FuturesAgentOs.ExecutionSimulation.AdvancedAlgorithms
import FuturesAgentOs.ExecutionSimulation.BookCost
import FuturesAgentOs.ExecutionSimulation.EngineFills
import FuturesAgentOs.ExecutionSimulation.OrderFills
import FuturesAgentOs.ExecutionSimulation.OrderHandles
import FuturesAgentOs.ExecutionSimulation.PaperReconciliation
import FuturesAgentOs.ExecutionSimulation.ProtectionHandles
import FuturesAgentOs.ExecutionSimulation.ReplayForesight
import FuturesAgentOs.ExecutionSimulation.TickLaw
import FuturesAgentOs.LearningReview.JournalRebuild
import FuturesAgentOs.Operations.AdmissionBounds
import FuturesAgentOs.Operations.CircuitBreaker
import FuturesAgentOs.Operations.SloObjective
import FuturesAgentOs.Operations.StabilityCompletion
import FuturesAgentOs.PortfolioRisk.ExposureAggregation
import FuturesAgentOs.PortfolioRisk.LedgerLifecycle
import FuturesAgentOs.PortfolioRisk.LossCap
import FuturesAgentOs.ReferenceMarketData.CalendarVisibility
import FuturesAgentOs.ReferenceMarketData.FileDataStore
import FuturesAgentOs.ReferenceMarketData.MarketQuality
import FuturesAgentOs.ResearchExperiment.FalsificationBinding
import FuturesAgentOs.ResearchExperiment.FunnelStrands
import FuturesAgentOs.ResearchExperiment.JobHistory
import FuturesAgentOs.ResearchExperiment.OpportunityRadar
import FuturesAgentOs.ResearchExperiment.ReplayPool
import FuturesAgentOs.ResearchExperiment.WalkForward
import FuturesAgentOs.SharedKernel.TamperEvidence
