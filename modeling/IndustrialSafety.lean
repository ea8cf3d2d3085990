import IndustrialSafety.Lib.Bfs
import IndustrialSafety.Lib.Literal
import IndustrialSafety.Lib.Debounce
import IndustrialSafety.Lib.Table
import IndustrialSafety.Lib.Transaction
import IndustrialSafety.Lib.Lockstep
import IndustrialSafety.Lib.Exponential
import IndustrialSafety.Lib.Group
import IndustrialSafety.Lib.Result
import IndustrialSafety.Lib.Run
import IndustrialSafety.Lib.History
import IndustrialSafety.Py.Basic
import IndustrialSafety.Py.Text
import IndustrialSafety.Py.Instances
import IndustrialSafety.Py.Json
import IndustrialSafety.Agents.Records
import IndustrialSafety.Agents.Base
import IndustrialSafety.Agents.GasRisk
import IndustrialSafety.Agents.EquipmentStatus
import IndustrialSafety.Agents.WorkerExposure
import IndustrialSafety.Agents.PermitIntelligence
import IndustrialSafety.Orchestrator.Scheduler
import IndustrialSafety.Orchestrator.RiskFormula
import IndustrialSafety.Orchestrator.Tiering
import IndustrialSafety.Orchestrator.Justification
import IndustrialSafety.Orchestrator.Counterfactual
import IndustrialSafety.Orchestrator.Proof.Alike
import IndustrialSafety.Orchestrator.Proof.Counterfactual
import IndustrialSafety.Orchestrator.Proof.Tiering
import IndustrialSafety.Orchestrator.Proof.Scheduler
import IndustrialSafety.Orchestrator.Proof.Isolation
import IndustrialSafety.Agents.Proof.Alike
import IndustrialSafety.Agents.Proof.Spec
import IndustrialSafety.Agents.Proof.Staleness
import IndustrialSafety.Agents.Proof.PermitPolicy
import IndustrialSafety.Agents.Proof.Range
import IndustrialSafety.Agents.Proof.Rules
import IndustrialSafety.Agents.Proof.Mono
import IndustrialSafety.Orchestrator.Proof.RiskFormula
import IndustrialSafety.Orchestrator.Proof.Justification
import IndustrialSafety.Simulation.Scenario
import IndustrialSafety.Simulation.Generator
import IndustrialSafety.Db.Models
import IndustrialSafety.Db.Repositories
import IndustrialSafety.Db.Proof.Repositories
import IndustrialSafety.Db.Proof.Pagination
import IndustrialSafety.Db.Proof.Writes
import IndustrialSafety.Db.Proof.Constraints
import IndustrialSafety.Services.Engine
import IndustrialSafety.Services.ContextBuilders
import IndustrialSafety.Services.RiskPipeline
import IndustrialSafety.Services.SimulationRunner
import IndustrialSafety.Services.ScenarioBuilder
import IndustrialSafety.KnowledgeGraph.Relationships
import IndustrialSafety.KnowledgeGraph.Traversal
import IndustrialSafety.KnowledgeGraph.Entities
import IndustrialSafety.KnowledgeGraph.RecommendationText
import IndustrialSafety.KnowledgeGraph.Proof.Path
import IndustrialSafety.KnowledgeGraph.Proof.Subgraph
import IndustrialSafety.KnowledgeGraph.Proof.Connected
import IndustrialSafety.LiveIngestion.Service
import IndustrialSafety.Services.Runtime
import IndustrialSafety.Services.Proof.Engine
import IndustrialSafety.Services.Proof.NaiveAlarm
import IndustrialSafety.Services.Proof.RiskPipeline
import IndustrialSafety.Services.Proof.Validate
import IndustrialSafety.Services.Proof.Writes
import IndustrialSafety.Services.Proof.Issuance
import IndustrialSafety.Services.Proof.Range
import IndustrialSafety.Services.Proof.Baseline
import IndustrialSafety.Services.Proof.Escalation
import IndustrialSafety.Services.Proof.Presence
import IndustrialSafety.Services.Proof.Causality
import IndustrialSafety.Services.Proof.Builder
import IndustrialSafety.Services.Proof.Comparator
import IndustrialSafety.Services.Proof.Identity
import IndustrialSafety.Services.Proof.Alike
import IndustrialSafety.Services.Proof.Persist
import IndustrialSafety.Services.Proof.ZoneRows
import IndustrialSafety.Services.Proof.Rerun
import IndustrialSafety.LiveIngestion.Proof.Csv
import IndustrialSafety.Services.Proof.Replay
import IndustrialSafety.Services.Proof.ScenarioCatalog
import IndustrialSafety.Historical.Proof.Analytics
import IndustrialSafety.Historical.Proof.Coherence
import IndustrialSafety.Foresight.Proof.Matching
import IndustrialSafety.Foresight.Proof.Forecast
import IndustrialSafety.Foresight.Proof.Confidence
import IndustrialSafety.Foresight.Proof.Progression
import IndustrialSafety.Foresight.Matching
import IndustrialSafety.KnowledgeGraph.Service
import IndustrialSafety.KnowledgeGraph.Proof.Nodes
import IndustrialSafety.KnowledgeGraph.Proof.Searches
import IndustrialSafety.KnowledgeGraph.Proof.Facts
import IndustrialSafety.KnowledgeGraph.Proof.Handlers
import IndustrialSafety.KnowledgeGraph.Proof.Chain
import IndustrialSafety.KnowledgeGraph.Proof.Lookups
import IndustrialSafety.KnowledgeGraph.Proof.Opening
import IndustrialSafety.KnowledgeGraph.Proof.Reversal
import IndustrialSafety.Frontend.ScenarioBuilderValidation
import IndustrialSafety.Frontend.Proof.Agreement
import IndustrialSafety.Frontend.Proof.Recommendations
import IndustrialSafety.Frontend.Proof.GraphLayout
import IndustrialSafety.Services.JustificationCodec
import IndustrialSafety.Services.Proof.JustificationCodec
import IndustrialSafety.Services.Proof.Story
import IndustrialSafety.Services.Proof.Completion
import IndustrialSafety.Services.Proof.Soundness
import IndustrialSafety.Services.Proof.Ids
import IndustrialSafety.Services.Proof.Reorder
import IndustrialSafety.KnowledgeGraph.Proof.Ids
import IndustrialSafety.Frontend.ReplayContext
import IndustrialSafety.Frontend.Proof.ActionPlaybook
import IndustrialSafety.Frontend.Proof.DependencyGraph
import IndustrialSafety.Frontend.Proof.ReplayContext
import IndustrialSafety.Frontend.Proof.ReplayTimeline
import IndustrialSafety.Services.Proof.Concurrent
import IndustrialSafety.Api.Proof.Server
import IndustrialSafety.Api.Proof.Intelligence
import IndustrialSafety.Frontend.Proof.DecisionStability
import IndustrialSafety.Api.Proof.Seed
import IndustrialSafety.Frontend.Proof.OperatorTimeline
import IndustrialSafety.Frontend.Proof.PipelineStages
