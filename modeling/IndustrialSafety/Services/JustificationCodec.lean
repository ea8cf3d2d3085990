import IndustrialSafety.Historical.Similarity
import IndustrialSafety.Py.Json
import IndustrialSafety.Services.ContextBuilders
import IndustrialSafety.Services.Replay

/-!
# The stored justification

The JSON document behind `RiskAssessment.justification`: what `_serialize_justification` of
`src/services/risk_pipeline.py` writes, and the readers of `context_builders.py`,
`historical/feature_vector.py` and `replay.py` as they parse it. A dict's fields are listed in
insertion order.
-/

namespace JustificationCodec

open Py Justification

variable {R Uuid : Type} [Field R] [LinearOrder R]

/-! ## The writer -/

omit [LinearOrder R] in
/-- One entry of `agent_contributions`. -/
def serializeContribution (c : Contribution R) : String × Json R :=
  (c.agentName, .object [("risk", .number c.risk), ("confidence", .number c.confidence)])

omit [LinearOrder R] in
def serializeJustification (justification : RiskAssessmentJustification R) : JsonObject R :=
  [("schema_version", .number (justification.schemaVersion : R)),
    ("rules_fired", .array (justification.rulesFired.map Json.string)),
    ("agent_contributions",
      .object (justification.agentContributions.map serializeContribution)),
    ("interaction_bonus_applied", .number justification.interactionBonusApplied),
    ("tier_before", .string justification.tierBefore.str),
    ("tier_after", .string justification.tierAfter.str)]

/-- The columns of a row that a reader of stored assessments uses. -/
structure StoredAssessment (R : Type) where
  compoundRiskScore : R
  confidence : R
  tier : String
  justification : JsonObject R

omit [LinearOrder R] in
/-- The row of `run_zone_tick`. -/
def stored (assessment : RiskAssessment R Uuid) : StoredAssessment R where
  compoundRiskScore := assessment.compoundRiskScore
  confidence := assessment.confidence
  tier := assessment.tier.str
  justification := serializeJustification assessment.justification

/-! ## The readers -/

omit [LinearOrder R] in
/-- `_extract_gas_risk_score`. -/
def extractGasRiskScore (justification : JsonObject R) : Option R := do
  let contributions ← (← justification.lookup "agent_contributions").object?
  let gasRisk ← (← contributions.lookup "gas_risk").object?
  (← gasRisk.lookup "risk").number?

omit [LinearOrder R] in
/-- `_agent_risk`. -/
def agentRisk (agentContributions : JsonObject R) (agentName : String) : R :=
  match (agentContributions.lookup agentName).bind Json.object? with
  | none => 0
  | some contribution => ((contribution.lookup "risk").bind Json.number?).getD 0

/-- `RISK_TIERS`. -/
def riskTiers : List String := ["normal", "watch", "elevated", "critical"]

/-- `_TIER_ORDINAL.get(tier, 0)`. -/
def tierOrdinal (tier : String) : Nat := (riskTiers.idxOf? tier).getD 0

def buildFeatureVector (assessment : StoredAssessment R) (previous : Option (StoredAssessment R)) :
    Historical.FeatureVector R :=
  let justification := assessment.justification
  let agentContributions :=
    ((justification.lookup "agent_contributions").bind Json.object?).getD []
  let triggered := Historical.agentNames.filter fun name => 0 < agentRisk agentContributions name
  { gasRisk := agentRisk agentContributions "gas_risk"
    equipmentRisk := agentRisk agentContributions "equipment_status"
    workerRisk := agentRisk agentContributions "worker_exposure"
    permitRisk := agentRisk agentContributions "permit_intelligence"
    compoundRiskScore := assessment.compoundRiskScore
    confidence := assessment.confidence
    tierOrdinal := tierOrdinal assessment.tier
    interactionBonus :=
      ((justification.lookup "interaction_bonus_applied").bind Json.number?).getD 1
    triggeredAgentCount := triggered.length
    trend := match previous with
      | none => 0
      | some previous =>
        if previous.compoundRiskScore < assessment.compoundRiskScore then 1
        else if assessment.compoundRiskScore < previous.compoundRiskScore then -1
        else 0
    triggeredAgents := triggered }

omit [Field R] [LinearOrder R] in
/-- `_tier_transition`. -/
def tierTransition (justification : JsonObject R) : Option (String × String) := do
  let tierBefore ← (← justification.lookup "tier_before").string?
  let tierAfter ← (← justification.lookup "tier_after").string?
  pure (tierBefore, tierAfter)

omit [Field R] [LinearOrder R] in
/-- `_has_interaction_bonus`. -/
def hasInteractionBonus (justification : JsonObject R) : Bool :=
  match (justification.lookup "rules_fired").bind Json.array? with
  | some rulesFired => rulesFired.any fun rule => rule.string? = some "interaction_bonus_applied"
  | none => false

end JustificationCodec
