import IndustrialSafety.Db.Repositories
import Mathlib.Data.List.MinMax

/-!
# Replay

`src/services/replay.py`: the stored assessments and permits of a window, read-only. The documents
of `justification` are records, so every assessment has a tier transition and a list of rules.
-/

namespace Replay

open Py

/-- `_HISTORY_LIMIT`. -/
def historyLimit : Nat := 5000

inductive BookmarkKind
  | tierChange | critical | interactionBonus | permitActivated | highestRisk
deriving DecidableEq

structure ReplayBookmark (Uuid : Type) where
  timestamp : Instant
  zoneId : Uuid
  kind : BookmarkKind
  label : String
  assessmentId : Option Uuid

structure ZoneReplayTimeline (R Uuid : Type) where
  zoneId : Uuid
  assessments : List (RiskAssessment R Uuid)

structure ReplayData (R Uuid : Type) where
  zoneIds : List Uuid
  startTime : Instant
  endTime : Instant
  durationMinutes : R
  zoneTimelines : List (ZoneReplayTimeline R Uuid)
  bookmarks : List (ReplayBookmark Uuid)
  tickCount : Nat

variable {R Uuid : Type} [DecidableEq Uuid]

/-- The exclusive bounds of the query are widened by a microsecond. -/
def fetchZoneAssessments (db : Db R Uuid) (zoneId : Uuid) (startTime endTime : Instant) :
    List (RiskAssessment R Uuid) :=
  (RiskAssessmentRepository.historyByZone db zoneId historyLimit (some (endTime + 1))
    (some (startTime - 1))).insertionSort fun a b => a.timestamp ≤ b.timestamp

/-- The permits of the window among the newest `historyLimit` of the zone. -/
def zonePermits (db : Db R Uuid) (zoneId : Uuid) (startTime endTime : Instant) :
    List (Permit R Uuid) :=
  (PermitRepository.listAll db (some zoneId) none historyLimit none none).filter fun p =>
    startTime ≤ p.issuedAt ∧ p.issuedAt ≤ endTime

/-! ## Bookmarks

`floatStr1 x` is `format(x, ".1f")`. -/

def assessmentBookmarks (T : Text R Uuid) (zoneId : Uuid) (assessment : RiskAssessment R Uuid) :
    List (ReplayBookmark Uuid) :=
  let tierBefore := assessment.justification.tierBefore
  let tierAfter := assessment.justification.tierAfter
  let bookmark (kind : BookmarkKind) (label : String) : ReplayBookmark Uuid :=
    ⟨assessment.timestamp, zoneId, kind, label, some assessment.assessmentId⟩
  (if tierBefore ≠ tierAfter then
    bookmark .tierChange s!"{tierBefore.str} → {tierAfter.str}" ::
      if tierAfter = .critical ∧ tierBefore ≠ .critical then
        [bookmark .critical "Reached CRITICAL"]
      else []
  else []) ++
  if "interaction_bonus_applied" ∈ assessment.justification.rulesFired then
    let multiplier := T.floatStr assessment.justification.interactionBonusApplied
    [bookmark .interactionBonus s!"Interaction bonus applied ({multiplier}×)"]
  else []

def permitBookmark (zoneId : Uuid) (permit : Permit R Uuid) : ReplayBookmark Uuid :=
  ⟨permit.issuedAt, zoneId, .permitActivated, s!"{permit.permitType} permit issued", none⟩

variable [Field R] [LinearOrder R]

/-- `max` returns the first of the highest assessments. -/
def peakBookmark (floatStr1 : R → String) (zoneId : Uuid)
    (assessments : List (RiskAssessment R Uuid)) : List (ReplayBookmark Uuid) :=
  match assessments.argmax RiskAssessment.compoundRiskScore with
  | some peak => [⟨peak.timestamp, zoneId, .highestRisk,
      s!"Highest risk this window ({floatStr1 peak.compoundRiskScore})", some peak.assessmentId⟩]
  | none => []

def detectBookmarks (T : Text R Uuid) (floatStr1 : R → String) (zoneId : Uuid)
    (assessments : List (RiskAssessment R Uuid)) (permits : List (Permit R Uuid)) :
    List (ReplayBookmark Uuid) :=
  assessments.flatMap (assessmentBookmarks T zoneId) ++
    peakBookmark floatStr1 zoneId assessments ++ permits.map (permitBookmark zoneId)

/-- The replay of a window away from the ends of `datetime`. -/
def replayOf (T : Text R Uuid) (floatStr1 : R → String) (db : Db R Uuid) (zoneIds : List Uuid)
    (startTime endTime : Instant) : ReplayData R Uuid :=
  let zoneTimelines := zoneIds.map fun zoneId =>
    { zoneId, assessments := fetchZoneAssessments db zoneId startTime endTime }
  let allTimestamps := zoneTimelines.flatMap fun t => t.assessments.map RiskAssessment.timestamp
  let allBookmarks := zoneTimelines.flatMap fun t =>
    detectBookmarks T floatStr1 t.zoneId t.assessments (zonePermits db t.zoneId startTime endTime)
  { zoneIds
    startTime
    endTime
    durationMinutes := minutes (endTime - startTime)
    zoneTimelines
    bookmarks := allBookmarks.insertionSort fun a b => a.timestamp ≤ b.timestamp
    tickCount := allTimestamps.toFinset.card }

/-- With a zone the bounds are widened, by a microsecond each. -/
def buildReplay (T : Text R Uuid) (floatStr1 : R → String) (db : Db R Uuid) (zoneIds : List Uuid)
    (startTime endTime : DateTime) : Result (ReplayData R Uuid) := do
  if zoneIds ≠ [] then
    let _ ← (endTime.addMicroseconds 1).checked
    let _ ← (startTime.addMicroseconds (-1)).checked
  pure (replayOf T floatStr1 db zoneIds startTime.instant endTime.instant)

end Replay
