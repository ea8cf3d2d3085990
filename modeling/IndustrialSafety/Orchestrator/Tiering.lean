import IndustrialSafety.Orchestrator.RiskFormula

/-!
# The tiering engine

`src/domain/orchestrator/tiering.py`: hysteresis and dwell time over the compound risk score.
-/

namespace Tiering

open RiskFormula

variable {R Uuid : Type} [Field R] [LinearOrder R]

structure TieringConfig (R : Type) where
  algorithmName : String
  algorithmVersion : Int
  watchThreshold : R
  elevatedThreshold : R
  criticalThreshold : R
  deEscalationMargin : R
  dwellTicks : Nat

def TieringConfig.default : TieringConfig R where
  algorithmName := "hysteresis_tiering"
  algorithmVersion := 1
  watchThreshold := 40
  elevatedThreshold := 65
  criticalThreshold := 85
  deEscalationMargin := 10
  dwellTicks := 2

structure TierState (R : Type) where
  currentTier : Tier
  entryThreshold : R
  pendingTier : Option Tier := none
  pendingTicks : Nat := 0
deriving DecidableEq

def TierState.initial : TierState R where
  currentTier := .normal
  entryThreshold := 0

/-- `_threshold_for_tier`. -/
def thresholdForTier (tier : Tier) (config : TieringConfig R) : R :=
  match tier with
  | .normal => 0
  | .watch => config.watchThreshold
  | .elevated => config.elevatedThreshold
  | .critical => config.criticalThreshold

def determineRawBand (compoundRiskScore : R) (config : TieringConfig R) : Tier :=
  if config.criticalThreshold ≤ compoundRiskScore then .critical
  else if config.elevatedThreshold ≤ compoundRiskScore then .elevated
  else if config.watchThreshold ≤ compoundRiskScore then .watch
  else .normal

/-- The candidate of `transition`, against the tier `current` entered at `entryThreshold`. -/
def candidate (current : Tier) (entryThreshold score : R) (config : TieringConfig R) :
    Option Tier :=
  let rawBand := determineRawBand score config
  if current.rank < rawBand.rank then some rawBand
  else if rawBand.rank < current.rank ∧ score ≤ entryThreshold - config.deEscalationMargin then
    some rawBand
  else none

def transition (previous : TierState R) (fusionResult : FusionResult R Uuid)
    (config : TieringConfig R) : TierState R :=
  match candidate previous.currentTier previous.entryThreshold fusionResult.compoundRiskScore
      config with
  | none => ⟨previous.currentTier, previous.entryThreshold, none, 0⟩
  | some candidate =>
    let ticks := if previous.pendingTier = some candidate then previous.pendingTicks + 1 else 1
    if config.dwellTicks ≤ ticks then ⟨candidate, thresholdForTier candidate config, none, 0⟩
    else ⟨previous.currentTier, previous.entryThreshold, some candidate, ticks⟩

end Tiering
