import IndustrialSafety.Frontend.ReplayContext
import IndustrialSafety.Lib.Run

/-!
# The bounds of the replay cursor

Every handler but `next` clamps the cursor on both sides. `next` only clamps it to the last index, which
is −1 where there is no timestamp, so the cursor is in bounds all along a run iff `next` is never
pressed on an empty axis (`cursor_inBounds_iff`).
-/

namespace Frontend

/-! ## The nearest timestamp -/

section
variable {getTime : String → Option ℤ} {target : String}

theorem nearest_fst (getTime : String → Option ℤ) (target : String) (best : ℕ × Option ℕ)
    (entry : String × ℕ) :
    (nearest getTime target best entry).1 = best.1 ∨
      (nearest getTime target best entry).1 = entry.2 := by
  unfold nearest
  split
  · dsimp only
    split
    · exact .inr rfl
    · exact .inl rfl
  · exact .inl rfl

/-- The loop only chooses indices it has seen. -/
theorem foldl_nearest_lt {n : ℕ} {entries : List (String × ℕ)} {best : ℕ × Option ℕ}
    (hbest : best.1 < n) (h : ∀ entry ∈ entries, entry.2 < n) :
    (entries.foldl (nearest getTime target) best).1 < n := by
  induction entries generalizing best with
  | nil => exact hbest
  | cons entry entries ih =>
    refine ih ?_ fun e he => h e (.tail _ he)
    rcases nearest_fst getTime target best entry with hfst | hfst
    · rw [hfst]
      exact hbest
    · rw [hfst]
      exact h entry (.head _)

theorem findNearestTimestampIndex_lt (getTime : String → Option ℤ) (target : String)
    {timestamps : List String} (h : timestamps ≠ []) :
    findNearestTimestampIndex getTime timestamps target < timestamps.length := by
  rw [findNearestTimestampIndex, if_neg h]
  refine foldl_nearest_lt (List.length_pos_iff.2 h) fun entry he => ?_
  exact (List.mem_zipIdx' he).1

end

namespace ReplayState

variable {Target : Type} [DecidableEq Target] {getTime : String → Option ℤ} {s : ReplayState Target}

/-- What the cursor promises. -/
structure InBounds (s : ReplayState Target) : Prop where
  nonneg : 0 ≤ s.currentIndex
  lt : s.allTimestamps ≠ [] → s.currentIndex < s.allTimestamps.length

/-- What the handlers keep: the cursor is in bounds, and at 0 while there is no timestamp, so it is in
bounds of any axis that arrives. -/
structure Settled (s : ReplayState Target) : Prop extends s.InBounds where
  zero : s.allTimestamps = [] → s.currentIndex = 0

/-- `next` is pressed where there is a timestamp. -/
def NextOnTimestamps (s : ReplayState Target) (e : ReplayEvent Target) : Prop :=
  e = .next → s.allTimestamps ≠ []

omit [DecidableEq Target] in
/-- A cursor in bounds shows a timestamp iff there is one. -/
theorem InBounds.currentTimestamp_eq_none (h : s.InBounds) :
    s.currentTimestamp = none ↔ s.allTimestamps = [] := by
  rw [currentTimestamp, if_pos h.nonneg, List.getElem?_eq_none_iff, ← List.length_eq_zero_iff]
  have hnonneg := h.nonneg
  refine ⟨fun hle => ?_, fun hzero => by omega⟩
  by_contra hne
  have hlt := h.lt fun hnil => hne (List.length_eq_zero_iff.2 hnil)
  omega

omit [DecidableEq Target] in
theorem settled_of_zero (h : s.currentIndex = 0) : s.Settled := by
  refine ⟨⟨h.ge, fun hne => ?_⟩, fun _ => h⟩
  have hlength := List.length_pos_iff.2 hne
  omega

omit [DecidableEq Target] in
/-- Where there is a timestamp, an index between 0 and the last one. -/
theorem settled_of_lt (hnonneg : 0 ≤ s.currentIndex)
    (hlt : s.currentIndex < s.allTimestamps.length) : s.Settled :=
  ⟨⟨hnonneg, fun _ => hlt⟩, fun hnil => by
    rw [hnil, List.length_nil] at hlt
    omega⟩

omit [DecidableEq Target] in
theorem tick_settled (h : s.Settled) : s.tick.Settled := by
  have hnonneg := h.nonneg
  unfold tick
  split
  · split
    · exact ⟨⟨h.nonneg, h.lt⟩, h.zero⟩
    · refine settled_of_lt ?_ ?_
      · show 0 ≤ s.currentIndex + 1
        omega
      · show s.currentIndex + 1 < s.allTimestamps.length
        omega
  · exact h

theorem setTarget_settled (h : s.Settled) (newTarget : Option Target)
    (cached : Option (List (List String))) : (s.setTarget newTarget cached).Settled := by
  unfold setTarget
  split
  · exact h
  · exact settled_of_zero rfl

omit [DecidableEq Target] in
/-- The handlers of the cursor, but `next`, clamp to 0 where there is no timestamp. -/
theorem move_settled {index : ℤ} (hnil : s.allTimestamps = [] → index = 0)
    (hlt : s.allTimestamps ≠ [] → 0 ≤ index ∧ index < s.allTimestamps.length) :
    { s with playing := false, currentIndex := index }.Settled := by
  by_cases h : s.allTimestamps = []
  · exact settled_of_zero (hnil h)
  · exact settled_of_lt (hlt h).1 (hlt h).2

theorem step_settled (h : s.Settled) {e : ReplayEvent Target} (hnext : s.NextOnTimestamps e) :
    (s.step getTime e).Settled := by
  have hlength : s.allTimestamps ≠ [] → 0 < s.allTimestamps.length := List.length_pos_iff.2
  have hnonneg := h.nonneg
  cases e with
  | startReplay newTarget cached => exact setTarget_settled h _ _
  | exitReplay => exact setTarget_settled h _ _
  | dataArrives zoneTimelines =>
    unfold step
    dsimp only
    split
    · rename_i hloading
      -- the cursor was at 0 while nothing was loaded
      have hnil : s.allTimestamps = [] := by
        rw [allTimestamps, Option.isNone_iff_eq_none.1 hloading.2]
      exact settled_of_zero (h.zero hnil)
    · exact h
  | play => exact ⟨⟨h.nonneg, h.lt⟩, h.zero⟩
  | pause => exact ⟨⟨h.nonneg, h.lt⟩, h.zero⟩
  | tick => exact tick_settled h
  | reset => exact settled_of_zero rfl
  | next =>
    have hne := hnext rfl
    refine move_settled (fun hnil => absurd hnil hne) fun _ => ?_
    have := hlength hne
    omega
  | previous =>
    refine move_settled (fun hnil => ?_) fun hne => ?_
    · have := h.zero hnil
      omega
    · have := h.lt hne
      omega
  | scrubToIndex index =>
    refine move_settled (fun hnil => ?_) fun hne => ?_
    · rw [hnil, List.length_nil]
      omega
    · have := hlength hne
      omega
  | jumpToTimestamp timestamp =>
    refine move_settled (fun hnil => ?_) fun hne => ?_
    · rw [hnil]
      rfl
    · have hlt := findNearestTimestampIndex_lt getTime timestamp hne
      omega

/-- Without a timestamp `next` takes the cursor to −1. -/
theorem next_of_nil (h : s.allTimestamps = []) : (s.step getTime .next).currentIndex < 0 := by
  show min (s.currentIndex + 1) (s.allTimestamps.length - 1 : ℤ) < 0
  rw [h, List.length_nil]
  omega

/-- **The bounds of the replay cursor**: in every state that a run reaches the cursor is in bounds, and no
timestamp is shown only while there is none, iff the run never presses `next` without a timestamp. -/
theorem cursor_inBounds_iff (getTime : String → Option ℤ) (events : List (ReplayEvent Target)) :
    Run.Along (step getTime) NextOnTimestamps {} events ↔ ∀ done, done <+: events →
      let s := done.foldl (step getTime) {}
      s.InBounds ∧ (s.currentTimestamp = none ↔ s.allTimestamps = []) := by
  refine Run.along_iff_reached (I := Settled)
    (J := fun s => s.InBounds ∧ (s.currentTimestamp = none ↔ s.allTimestamps = []))
    (fun s hs => ⟨hs.toInBounds, hs.currentTimestamp_eq_none⟩) (fun s e hs hnext => step_settled hs hnext)
    (fun s e _ h hnext hnil => ?_) (settled_of_zero rfl)
  subst hnext
  exact absurd h.1.nonneg (not_le.2 (next_of_nil hnil))

/-- `next` while the payload is loading: the cursor stays at −1 when the timestamps arrive. -/
theorem next_while_loading :
    (¬∀ (events done : List (ReplayEvent ℕ)), done <+: events →
      (done.foldl (step fun _ => none) {}).InBounds) ∧
    let s := List.foldl (step fun _ => none) ({} : ReplayState ℕ)
      [.startReplay 0 none, .next, .dataArrives [["2026-01-01T00:00:00Z"]]]
    s.currentIndex = -1 ∧ s.allTimestamps = ["2026-01-01T00:00:00Z"] ∧ s.currentTimestamp = none := by
  refine ⟨fun h => ?_, by decide +kernel⟩
  have hnonneg := (h [.next] [.next] List.prefix_rfl).nonneg
  exact absurd hnonneg (by decide)

end ReplayState

end Frontend
