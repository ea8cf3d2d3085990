import IndustrialSafety.Lib.Table
import IndustrialSafety.Orchestrator.RiskFormula

/-!
# The justification builder

`src/domain/orchestrator/justification.py`: the persisted `justification` document, assembled from
the agents' results, the fusion result and the tier transition.
-/

namespace Justification

open Py RiskFormula

variable {R Uuid : Type} [Field R] [LinearOrder R]

def justificationSchemaVersion : Int := 1

/-- One entry of `agent_contributions`. -/
structure Contribution (R : Type) where
  agentName : String
  risk : R
  confidence : R
deriving DecidableEq

structure RiskAssessmentJustification (R : Type) where
  schemaVersion : Int
  rulesFired : List String
  agentContributions : List (Contribution R)
  interactionBonusApplied : R
  tierBefore : Tier
  tierAfter : Tier
deriving DecidableEq

/-- `_dedupe_preserving_order`. -/
def dedupePreservingOrder (items : List String) : List String :=
  (items.foldl (fun (seen, deduped) item =>
    if item ∈ seen then (seen, deduped) else (insert item seen, deduped ++ [item]))
      ((∅ : Finset String), [])).2

/-- A dict has one entry for each name, the last one, where the name first occurs. -/
def buildAgentContributions (fusionResult : FusionResult R Uuid) : List (Contribution R) :=
  fusionResult.agentContributions.foldl (fun contributions c =>
    Table.upsertRow Contribution.agentName ⟨c.agentName, c.rawRisk, c.confidence⟩ contributions) []

def determineTierTransitionRule (tierBefore tierAfter : Tier) : String :=
  if tierBefore = tierAfter then "tier_stable"
  else if tierBefore.rank < tierAfter.rank then "tier_escalated"
  else "tier_de_escalated"

def buildRulesFired (agentResults : Results R) (fusionResult : FusionResult R Uuid)
    (agentContributions : List (Contribution R)) (tierBefore tierAfter : Tier) :
    Result (List String) := do
  let fired ← agentContributions.mapM fun c => do
    let r ← agentResults.get c.agentName
    pure r.justification.rulesFired
  let transitionRule := determineTierTransitionRule tierBefore tierAfter
  pure (dedupePreservingOrder (fired.flatten ++ fusionResult.rulesFired ++ [transitionRule]))

def buildRiskAssessmentJustification (agentResults : Results R)
    (fusionResult : FusionResult R Uuid) (tierBefore tierAfter : Tier) :
    Result (RiskAssessmentJustification R) := do
  let agentContributions := buildAgentContributions fusionResult
  let missing :=
    (agentContributions.map Contribution.agentName).filter fun name => (agentResults name).isNone
  if missing ≠ [] then
    throw (.keyError
      s!"agent_results is missing entries fusion_result already used: {reprList missing}")
  let rulesFired ← buildRulesFired agentResults fusionResult agentContributions tierBefore tierAfter
  pure ⟨justificationSchemaVersion, rulesFired, agentContributions,
    fusionResult.interactionBonusApplied, tierBefore, tierAfter⟩

end Justification
