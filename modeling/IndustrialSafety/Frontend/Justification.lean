import IndustrialSafety.Frontend.ActionPlaybook
import IndustrialSafety.Services.JustificationCodec

/-!
# The justification as the client parses it

`frontend/src/lib/justification.ts`: `parseJustification` checks the shape of the JSON document of a row
and keeps its fields. A document's object lists its fields in insertion order.
-/

namespace Frontend

open Py

variable {R : Type}

/-- What `parseJustification` returns. -/
structure ParsedJustification (R : Type) extends RiskJustification R where
  schemaVersion : R
  interactionBonusApplied : R
  tierBefore : String
  tierAfter : String

/-- `typeof value === "number"`: a boolean is none. -/
def asNumber : Json R → Option R
  | .number x => some x
  | _ => none

/-- `Object.entries(value)` where `typeof value === "object"` and `value !== null`; the keys of an array
are its positions. -/
def entries : Json R → Option (JsonObject R)
  | .object fields => some fields
  | .array items => some (items.zipIdx.map fun (item, i) => (toString i, item))
  | _ => none

/-- `isAgentContribution(value)`, with the two numbers. An array has no field `risk`. -/
def asAgentContribution : Json R → Option (AgentContribution R)
  | .object fields => do
    let risk ← (fields.lookup "risk").bind asNumber
    let confidence ← (fields.lookup "confidence").bind asNumber
    pure ⟨risk, confidence⟩
  | _ => none

def parseJustification (raw : JsonObject R) : Option (ParsedJustification R) := do
  let schemaVersion ← (raw.lookup "schema_version").bind asNumber
  let rulesFired ← (raw.lookup "rules_fired").bind Json.array?
  let contributions ← (raw.lookup "agent_contributions").bind entries
  let interactionBonusApplied ← (raw.lookup "interaction_bonus_applied").bind asNumber
  let tierBefore ← (raw.lookup "tier_before").bind Json.string?
  let tierAfter ← (raw.lookup "tier_after").bind Json.string?
  let agentContributions ← contributions.mapM fun (agentName, contribution) => do
    pure (agentName, ← asAgentContribution contribution)
  pure ⟨⟨rulesFired.filterMap Json.string?, agentContributions⟩, schemaVersion,
    interactionBonusApplied, tierBefore, tierAfter⟩

/-- The justification of a row, as the client gets it from the API. -/
def justificationOf [Field R] {Uuid : Type} (assessment : RiskAssessment R Uuid) :
    Option (ParsedJustification R) :=
  parseJustification (JustificationCodec.serializeJustification assessment.justification)

end Frontend
