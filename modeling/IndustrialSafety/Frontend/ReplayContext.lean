import IndustrialSafety.Frontend.ReplayTimeline

/-!
# The replay cursor

`frontend/src/context/ReplayContext.tsx`: the state of `ReplayProvider` and its handlers. `data` is what
the query of the current target has; it is fetched once (`staleTime: Infinity`), and of the payload only
the timestamps of the zones are kept. Speed and custom bookmarks, which no handler of the cursor reads,
are left out.
-/

namespace Frontend

/-- `Target` stands for the identity of target objects, which is what `setTarget` compares. -/
structure ReplayState (Target : Type) where
  target : Option Target := none
  data : Option (List (List String)) := none
  currentIndex : ℤ := 0
  playing : Bool := false

namespace ReplayState

variable {Target : Type}

def allTimestamps (s : ReplayState Target) : List String :=
  match s.data with
  | none => []
  | some zoneTimelines => mergeTimestamps zoneTimelines

/-- `allTimestamps[currentIndex] ?? null`. -/
def currentTimestamp (s : ReplayState Target) : Option String :=
  if 0 ≤ s.currentIndex then s.allTimestamps[s.currentIndex.toNat]? else none

end ReplayState

inductive ReplayEvent (Target : Type)
  /-- `cached` is what the query cache still has for the new target. -/
  | startReplay (newTarget : Target) (cached : Option (List (List String)))
  | exitReplay
  | dataArrives (zoneTimelines : List (List String))
  | play
  | pause
  /-- The interval fires. -/
  | tick
  | reset
  | next
  | previous
  | scrubToIndex (index : ℤ)
  | jumpToTimestamp (timestamp : String)

namespace ReplayState

variable {Target : Type} [DecidableEq Target]

/-- `setTarget`, and the effect of a target that is not the one before. -/
def setTarget (newTarget : Option Target) (cached : Option (List (List String)))
    (s : ReplayState Target) : ReplayState Target :=
  if s.target = newTarget then s
  else { target := newTarget, data := cached, currentIndex := 0, playing := false }

/-- The interval is set while something plays and the axis has a timestamp. -/
def tick (s : ReplayState Target) : ReplayState Target :=
  if s.playing ∧ s.allTimestamps ≠ [] then
    if s.currentIndex ≥ s.allTimestamps.length - 1 then { s with playing := false }
    else { s with currentIndex := s.currentIndex + 1 }
  else s

def step (getTime : String → Option ℤ) (s : ReplayState Target) :
    ReplayEvent Target → ReplayState Target
  | .startReplay newTarget cached => s.setTarget (some newTarget) cached
  | .exitReplay => s.setTarget none none
  | .dataArrives zoneTimelines =>
    if s.target.isSome ∧ s.data.isNone then { s with data := some zoneTimelines } else s
  | .play => { s with playing := true }
  | .pause => { s with playing := false }
  | .tick => s.tick
  | .reset => { s with playing := false, currentIndex := 0 }
  | .next => { s with
      playing := false
      currentIndex := min (s.currentIndex + 1) (s.allTimestamps.length - 1) }
  | .previous => { s with playing := false, currentIndex := max (s.currentIndex - 1) 0 }
  | .scrubToIndex index => { s with
      playing := false
      currentIndex := max 0 (min index (s.allTimestamps.length - 1)) }
  | .jumpToTimestamp timestamp => { s with
      playing := false
      currentIndex := findNearestTimestampIndex getTime s.allTimestamps timestamp }

end ReplayState

end Frontend
