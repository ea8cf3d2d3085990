import IndustrialSafety.Agents.Base
import Mathlib.Data.Finset.Card

/-!
# Equipment Status

`src/domain/agents/equipment_status.py`: the ratio of equipment types with a degraded record, on the
same saturating curve.
-/

namespace EquipmentStatus

open Py

variable {R : Type} [Field R] [LinearOrder R]

def knownIsolationStatuses : List String := ["isolated", "active", "degraded"]

def degradedIsolationStatuses : List String := ["isolated", "degraded"]

structure EquipmentStatusConfig (R : Type) where
  formulaVersion : Int
  steepnessK : R
  missingContextConfidence : R

def EquipmentStatusConfig.default (M : Math R) : EquipmentStatusConfig R where
  formulaVersion := 1
  steepnessK := 2 * M.ln2
  missingContextConfidence := 0.1

def isDegraded (record : EquipmentRecord) : Result Bool :=
  if record.isolationStatus ∉ knownIsolationStatuses then
    throw (.valueError s!"unrecognized isolation_status: {strRepr record.isolationStatus}")
  else
    pure (decide (record.isolationStatus ∈ degradedIsolationStatuses) || record.maintenanceFlag ||
      record.lotoConfirmed)

/-- Distinct equipment types among the degraded records. -/
def calculateDegradedGroups : List EquipmentRecord → Result (Finset String)
  | [] => pure ∅
  | r :: rs => do
    let degraded ← isDegraded r
    let groups ← calculateDegradedGroups rs
    pure (if degraded then insert r.equipmentType groups else groups)

/-- `{r.equipment_type for r in equipment}`. -/
def equipmentTypes (equipment : List EquipmentRecord) : Finset String :=
  (equipment.map EquipmentRecord.equipmentType).toFinset

def calculateRisk (M : Math R) (degradedGroupCount totalTypeCount : Nat)
    (config : EquipmentStatusConfig R) : R :=
  if totalTypeCount = 0 ∨ degradedGroupCount = 0 then 0
  else M.saturate 100 config.steepnessK ((degradedGroupCount : R) / (totalTypeCount : R))

def calculateConfidence (contextPresent : Bool) (config : EquipmentStatusConfig R) : R :=
  if contextPresent then 1 else config.missingContextConfidence

def buildJustification (equipment : List EquipmentRecord) (degradedGroups : Finset String)
    (contextPresent : Bool) (config : EquipmentStatusConfig R) : Justification R :=
  let rule :=
    if !contextPresent then "missing_equipment_context"
    else if equipment.isEmpty then "confirmed_empty_inventory"
    else if degradedGroups = ∅ then "no_degradation"
    else "common_cause_grouped_degradation_count"
  ⟨[rule], .equipmentStatus config.formulaVersion equipment.length (equipmentTypes equipment).card
    degradedGroups⟩

/-- `EquipmentStatusAgent.evaluate`. -/
def evaluate {Uuid : Type} (M : Math R) (config : EquipmentStatusConfig R)
    (input : AgentInput R Uuid) : Result (AgentResult R) := do
  let contextPresent := input.context.equipment.isSome
  let equipment := input.context.equipment.getD []
  let degradedGroups ← calculateDegradedGroups equipment
  let risk := calculateRisk M degradedGroups.card (equipmentTypes equipment).card config
  let confidence := calculateConfidence contextPresent config
  let justification := buildJustification equipment degradedGroups contextPresent config
  pure { agentName := "equipment_status", risk, confidence, justification,
         computedAt := input.simTime }

/-- `EquipmentStatusAgent()`. -/
def agent {Uuid : Type} (M : Math R) : Agent R Uuid :=
  ⟨"equipment_status", evaluate M (EquipmentStatusConfig.default M)⟩

end EquipmentStatus
