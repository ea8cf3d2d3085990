import IndustrialSafety.KnowledgeGraph.Relationships
import IndustrialSafety.Py.Text

/-!
# Node ids

The id scheme of `src/knowledge_graph/entities.py`: the texts of primary keys, and composite ids whose
parts are joined with a bar.
-/

namespace KnowledgeGraph

open Py

/-- `PLANT_ID`. -/
def plantId : String := "plant"

/-- `_ID_SEPARATOR`. -/
def idSeparator : Char := '|'

/-- `node_id.split("|")`. -/
def splitId (nodeId : String) : List String := (nodeId.toList.splitOn idSeparator).map String.ofList

/-- `f"{a}|{b}"`. -/
def joinId (a b : String) : String := a ++ String.singleton idSeparator ++ b

/-- The two parts of an id. -/
def parsePair (nodeId : String) : Option (String × String) :=
  match splitId nodeId with
  | [a, b] => some (a, b)
  | _ => none

variable {R Uuid : Type} (T : Text R Uuid)

def triggeredAgentId (assessmentId : Uuid) (agentName : String) : String :=
  joinId (T.uuidStr assessmentId) agentName

def parseTriggeredAgentId (nodeId : String) : Option (String × String) := parsePair nodeId

def recommendationId (assessmentId : Uuid) (recommendationKey : String) : String :=
  joinId (T.uuidStr assessmentId) recommendationKey

def parseRecommendationId (nodeId : String) : Option (String × String) := parsePair nodeId

def forecastId (zoneId : Uuid) (timestamp : DateTime) : String :=
  joinId (T.uuidStr zoneId) (T.isoformat timestamp)

def counterfactualId (zoneId : Uuid) (timestamp : DateTime) : String :=
  joinId (T.uuidStr zoneId) (T.isoformat timestamp)

/-- For forecasts and counterfactuals. -/
def parseZoneTimestampId (nodeId : String) : Option (String × String) := parsePair nodeId

def businessImpactId (kind : String) (zoneId : Uuid) (timestamp : DateTime) : String :=
  joinId kind (joinId (T.uuidStr zoneId) (T.isoformat timestamp))

def parseBusinessImpactId (nodeId : String) : Option (String × String × String) :=
  match splitId nodeId with
  | [a, b, c] => some (a, b, c)
  | _ => none

end KnowledgeGraph
