import IndustrialSafety.Frontend.Justification

/-!
# Decision stability

`frontend/src/lib/decisionStability.ts`, with `tierRank` of `tier.ts`: how long the top recommendation has
been the same, and how often the tier turned around, over a page of a zone's history. Pages come newest
first.
-/

namespace Frontend

variable {R Uuid : Type} [Field R]

/-! ## The top recommendation -/

/-- `recommendations[0]?.id ?? null`. -/
def topRecommendationId (assessment : RiskAssessment R Uuid) : Option String :=
  let justification := justificationOf assessment
  let recommendations :=
    deriveRecommendations assessment.tier (justification.map fun j => j.rulesFired)
  recommendations.head?.bind Entry.id

def countUnchangedRecommendationTicks : List (RiskAssessment R Uuid) → Nat
  | [] => 0
  | latest :: timeline =>
    ((latest :: timeline).takeWhile fun assessment =>
      topRecommendationId assessment = topRecommendationId latest).length

/-! ## Oscillation -/

/-- `tierRank`: the position in `TIER_ORDER`. -/
def tierRank (tier : Tier) : Int := tier.rank

/-- The sign of `rank - previous`. -/
def direction (previous rank : Int) : Int :=
  let diff := rank - previous
  if 0 < diff then 1 else if diff < 0 then -1 else 0

/-- The variables of the loop. -/
structure Trend where
  reversals : Nat
  lastDirection : Int
deriving DecidableEq, Repr

/-- The body of the loop. -/
def Trend.step (trend : Trend) (ranks : Int × Int) : Trend :=
  let direction := direction ranks.1 ranks.2
  if direction ≠ 0 then
    { reversals :=
        if trend.lastDirection ≠ 0 ∧ direction ≠ trend.lastDirection then trend.reversals + 1
        else trend.reversals
      lastDirection := direction }
  else trend

structure Oscillation where
  detected : Bool
  reversals : Nat
deriving DecidableEq, Repr

def detectOscillation (timelineNewestFirst : List (RiskAssessment R Uuid)) : Oscillation :=
  let ascending := timelineNewestFirst.reverse
  let ranks := ascending.map fun assessment => tierRank assessment.tier
  let trend := (ranks.zip ranks.tail).foldl Trend.step ⟨0, 0⟩
  ⟨2 ≤ trend.reversals, trend.reversals⟩

/-! ## The reason -/

/-- `ConfidenceFactor`. -/
inductive ConfidenceFactor (R : Type)
  | percentage (label : String) (value : R) (source : String)
  | categorical (label categoryLabel source : String)
  | unavailable (label reason : String)

def ConfidenceFactor.label : ConfidenceFactor R → String
  | .percentage label _ _ => label
  | .categorical label _ _ => label
  | .unavailable label _ => label

def findFactor (factors : List (ConfidenceFactor R)) (label : String) :
    Option (ConfidenceFactor R) :=
  factors.find? (·.label = label)

/-- `toFixed0 x` is `x.toFixed(0)`. -/
def describeFactor (toFixed0 : R → String) : Option (ConfidenceFactor R) → String
  | some (.percentage _ value _) => s!"{toFixed0 (value * 100)}%"
  | some (.categorical _ categoryLabel _) => categoryLabel
  | some (.unavailable _ _) => "unavailable"
  | none => "unavailable"

structure RecommendationStability (R : Type) where
  unchangedForTicks : Nat
  oscillationDetected : Bool
  oscillationReversals : Nat
  historicalAgreement : Option (ConfidenceFactor R)
  forecastAgreement : Option (ConfidenceFactor R)
  reason : String

def buildRecommendationStability (toFixed0 : R → String)
    (timelineNewestFirst : List (RiskAssessment R Uuid))
    (confidenceFactors : List (ConfidenceFactor R)) : RecommendationStability R :=
  let unchangedForTicks := countUnchangedRecommendationTicks timelineNewestFirst
  let oscillation := detectOscillation timelineNewestFirst
  let historicalAgreement := findFactor confidenceFactors "Historical Agreement"
  let forecastAgreement := findFactor confidenceFactors "Forecast Agreement"
  { unchangedForTicks
    oscillationDetected := oscillation.detected
    oscillationReversals := oscillation.reversals
    historicalAgreement
    forecastAgreement
    reason :=
      if 1 < unchangedForTicks then
        s!"The tier and top recommendation have held steady for {unchangedForTicks} " ++
          s!"consecutive ticks, with {describeFactor toFixed0 historicalAgreement} historical " ++
          s!"agreement and {describeFactor toFixed0 forecastAgreement} forecast agreement over " ++
          "that window" ++
          (if oscillation.detected then ", despite some back-and-forth in severity"
            else " and no oscillation") ++ "."
      else "This is the first tick at this recommendation - no stability history yet." }

end Frontend
