import Mathlib.Data.List.Lex
import Mathlib.Data.List.Sort

/-!
# The replay timeline

`frontend/src/lib/replayTimeline.ts`: the merged axis of the zones' timestamps, and the index of the
timestamp nearest to a chosen one. `getTime s` is `new Date(s).getTime()` in milliseconds, `none` if that
is `NaN`.
-/

namespace Frontend

/-! ## Strings as `sort` compares them -/

/-- The UTF-16 code units of a character. -/
def utf16 (c : Char) : List ℕ :=
  if c.toNat < 0x10000 then [c.toNat]
  else [0xD800 + (c.toNat - 0x10000) / 0x400, 0xDC00 + (c.toNat - 0x10000) % 0x400]

def codeUnits (s : String) : List ℕ := s.toList.flatMap utf16

/-! ## The axis -/

/-- A `Set` keeps the order of insertion, and `sort` puts the strings in the order of their code units. -/
def mergeTimestamps (perZoneTimestamps : List (List String)) : List String :=
  perZoneTimestamps.flatten.eraseDups.insertionSort fun a b => codeUnits a ≤ codeUnits b

/-! ## The nearest timestamp -/

/-- `delta < bestDelta`, where `none` is the initial `Infinity`. -/
def closer (delta : ℕ) (bestDelta : Option ℕ) : Bool := bestDelta.all fun best => delta < best

/-- The body of the loop: the best index and its distance so far. A distance that is `NaN` is never
smaller. -/
def nearest (getTime : String → Option ℤ) (target : String) (best : ℕ × Option ℕ)
    (entry : String × ℕ) : ℕ × Option ℕ :=
  match getTime entry.1, getTime target with
  | some time, some targetMs =>
    let delta := (time - targetMs).natAbs
    if closer delta best.2 then (entry.2, some delta) else best
  | _, _ => best

def findNearestTimestampIndex (getTime : String → Option ℤ) (timestamps : List String)
    (target : String) : ℕ :=
  if timestamps = [] then 0 else (timestamps.zipIdx.foldl (nearest getTime target) (0, none)).1

end Frontend
