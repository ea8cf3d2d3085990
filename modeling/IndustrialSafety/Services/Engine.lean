import IndustrialSafety.Agents.GasRisk
import IndustrialSafety.Agents.EquipmentStatus
import IndustrialSafety.Agents.WorkerExposure
import IndustrialSafety.Agents.PermitIntelligence
import IndustrialSafety.Orchestrator.Scheduler
import IndustrialSafety.Orchestrator.Tiering

/-!
# The engine's configuration

The module-level constants of `src/services/risk_pipeline.py`: the execution plan over the four agents
and the configurations, constructed once.
-/

namespace RiskPipeline

open Py Scheduler

variable {R Uuid : Type} [Field R] [LinearOrder R]

/-- `EXECUTION_PLAN`. -/
def executionPlan (M : Math R) : ExecutionPlan R Uuid :=
  buildDefaultExecutionPlan (GasRisk.agent M) (EquipmentStatus.agent M) PermitIntelligence.agent
    (WorkerExposure.agent M)

/-- `SCHEDULER_CONFIG`. -/
def schedulerConfig (M : Math R) : SchedulerConfig R := SchedulerConfig.default M

/-- `FUSION_CONFIG`. -/
def fusionConfig [IsStrictOrderedRing R] : RiskFormula.FusionConfig R :=
  RiskFormula.FusionConfig.default

/-- `TIERING_CONFIG`. -/
def tieringConfig : Tiering.TieringConfig R := Tiering.TieringConfig.default

end RiskPipeline
