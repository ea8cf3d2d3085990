import IndustrialSafety.Frontend.Justification
import Mathlib.Data.List.Sort

/-!
# The operator timeline

`frontend/src/lib/operatorTimeline.ts` and `timeline.ts`: the events of a zone's history, and the
assessment under the playback cursor. `toFixed1` and `toFixed2` are `toFixed` with one and two digits.
-/

namespace Frontend

open Py

variable {R Uuid : Type}

/-- `new Date(timestamp).getTime()`: `Date` keeps the milliseconds of a timestamp. -/
def getTime (timestamp : Instant) : Int := timestamp / 1000

/-! ## `deriveTimelineEvents` -/

inductive TimelineEventKind
  | tierChange | critical | interactionBonus | highestRisk
deriving DecidableEq, Repr

structure TimelineEvent where
  timestamp : Instant
  kind : TimelineEventKind
  label : String
deriving DecidableEq, Repr

variable [Field R] [LinearOrder R]

/-- `justification?.rulesFired.includes("interaction_bonus_applied") ?? false`. -/
def bonusApplied (assessment : RiskAssessment R Uuid) : Bool :=
  match justificationOf assessment with
  | none => false
  | some justification => justification.rulesFired.contains "interaction_bonus_applied"

def tierEvents (previousTier : Option Tier) (assessment : RiskAssessment R Uuid) :
    List TimelineEvent :=
  match previousTier with
  | none => []
  | some previousTier =>
    if assessment.tier ≠ previousTier then
      ⟨assessment.timestamp, .tierChange,
        s!"{previousTier.str.toUpper} → {assessment.tier.str.toUpper}"⟩ ::
        if assessment.tier = .critical then [⟨assessment.timestamp, .critical, "Entered CRITICAL"⟩]
        else []
    else []

def bonusEvents (toFixed2 : R → String) (previousBonusApplied : Bool)
    (assessment : RiskAssessment R Uuid) : List TimelineEvent :=
  if bonusApplied assessment && !previousBonusApplied then
    let multiplier :=
      ((justificationOf assessment).map fun j => toFixed2 j.interactionBonusApplied).getD "undefined"
    [⟨assessment.timestamp, .interactionBonus, s!"Interaction bonus applied (×{multiplier})"⟩]
  else []

/-- The variables of the loop. `highest` is the assessment at `highestIndex`, and `highestScore` its
score. -/
structure Derivation (R Uuid : Type) where
  events : List TimelineEvent
  previousTier : Option Tier
  previousBonusApplied : Bool
  highest : Option (RiskAssessment R Uuid)

/-- The body of the loop. -/
def Derivation.step (toFixed2 : R → String) (loop : Derivation R Uuid)
    (assessment : RiskAssessment R Uuid) : Derivation R Uuid where
  events := loop.events ++ tierEvents loop.previousTier assessment ++
    bonusEvents toFixed2 loop.previousBonusApplied assessment
  previousTier := some assessment.tier
  previousBonusApplied := bonusApplied assessment
  highest :=
    if loop.highest.all fun peak => peak.compoundRiskScore < assessment.compoundRiskScore then
      some assessment
    else loop.highest

def deriveTimelineEvents (toFixed1 toFixed2 : R → String)
    (assessments : List (RiskAssessment R Uuid)) : List TimelineEvent :=
  let loop := assessments.foldl (Derivation.step toFixed2) ⟨[], none, false, none⟩
  let events := loop.events ++
    match loop.highest with
    | some peak => [⟨peak.timestamp, .highestRisk,
        s!"Highest compound score this window: {toFixed1 peak.compoundRiskScore}"⟩]
    | none => []
  events.insertionSort fun a b => getTime a.timestamp ≤ getTime b.timestamp

/-! ## The cursor -/

omit [Field R] [LinearOrder R] in
def assessmentAtOrBefore (history : List (RiskAssessment R Uuid)) (atTime : Int) :
    Option (RiskAssessment R Uuid) :=
  history.foldl
    (fun best item =>
      let itemTime := getTime item.timestamp
      if itemTime ≤ atTime ∧ best.all (fun best => getTime best.timestamp < itemTime) then some item
      else best)
    none

end Frontend
