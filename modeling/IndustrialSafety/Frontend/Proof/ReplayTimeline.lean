import IndustrialSafety.Frontend.Proof.Timestamp
import IndustrialSafety.Lib.FirstOccurrence
import IndustrialSafety.Lib.StableSort
import IndustrialSafety.Services.Proof.Replay
import Mathlib.Data.Set.List

/-!
# The axis as a sequence of instants

The axis is made of strings and read as instants. It moves forward in time, with each instant once, iff
the timestamps are in the order of their texts (`mergeTimestamps_chronological_iff`). Offsets may break
that order, and so does `Z` behind a whole second, which sorts behind the fractions of that second.
-/

namespace Frontend

open Timestamp

/-- What the axis is taken for: a sequence of instants that moves forward and has each instant once. -/
structure Chronological (zones : List (List Timestamp)) (axis : List Timestamp) : Prop where
  texts : mergeTimestamps (zones.map (List.map text)) = axis.map text
  increasing : axis.Pairwise fun a b => a.instant < b.instant
  complete : ∀ i, i ∈ axis.map instant ↔ i ∈ zones.flatten.map instant

/-- The order of the texts is the order of time. -/
def InTextOrder (zones : List (List Timestamp)) : Prop :=
  ∀ a ∈ zones.flatten, ∀ b ∈ zones.flatten, a.SortsBefore b → a.instant < b.instant

theorem mem_mergeTimestamps {perZone : List (List String)} {s : String} :
    s ∈ mergeTimestamps perZone ↔ s ∈ perZone.flatten := by
  rw [mergeTimestamps, List.mem_insertionSort, List.mem_eraseDups]

/-- Distinct strings in the order of `sort`. -/
theorem mergeTimestamps_pairwise (perZone : List (List String)) : (mergeTimestamps perZone).Pairwise
    fun s t => codeUnits s ≤ codeUnits t ∧ s ≠ t := by
  have : Std.Total fun s t : String => codeUnits s ≤ codeUnits t := ⟨fun _ _ => le_total _ _⟩
  have : IsTrans String fun s t => codeUnits s ≤ codeUnits t := ⟨fun _ _ _ => le_trans⟩
  have hnodup : (mergeTimestamps perZone).Nodup :=
    (List.perm_insertionSort _ _).nodup_iff.2 (FirstOccurrence.eraseDups_nodup _)
  exact (List.pairwise_insertionSort _ _).and hnodup

/-- The axis consists of the texts of the timestamps, in their order. -/
theorem exists_axis (zones : List (List Timestamp)) : ∃ axis : List Timestamp,
    mergeTimestamps (zones.map (List.map text)) = axis.map text ∧
      (∀ a, a ∈ axis ↔ a ∈ zones.flatten) ∧ axis.Pairwise SortsBefore := by
  have hmem : ∀ s, s ∈ mergeTimestamps (zones.map (List.map text)) ↔
      s ∈ zones.flatten.map text := by
    intro s
    rw [mem_mergeTimestamps, ← List.map_flatten]
  have hrange : mergeTimestamps (zones.map (List.map text)) ∈ Set.range (List.map text) := by
    rw [Set.range_list_map]
    intro s hs
    obtain ⟨a, -, ha⟩ := List.mem_map.1 ((hmem s).1 hs)
    exact ⟨a, ha⟩
  obtain ⟨axis, haxis⟩ := hrange
  refine ⟨axis, haxis.symm, fun a => ?_, ?_⟩
  · rw [← List.mem_map_of_injective text_injective, haxis, hmem,
      List.mem_map_of_injective text_injective]
  · have hpairwise := mergeTimestamps_pairwise (zones.map (List.map text))
    rw [← haxis, List.pairwise_map] at hpairwise
    refine hpairwise.imp fun {a b} h => (text_lt_iff a b).1 (lt_of_le_of_ne h.1 fun heq => ?_)
    exact h.2 (congrArg text (eq_of_codeUnits heq))

theorem sortsBefore_asymm {a b : Timestamp} (h : a.SortsBefore b) : ¬b.SortsBefore a := by
  rw [← text_lt_iff] at h ⊢
  exact lt_asymm h

/-- The axis is chronological iff the order of the texts is the order of time. -/
theorem exists_chronological_iff {zones : List (List Timestamp)} :
    (∃ axis, Chronological zones axis) ↔ InTextOrder zones := by
  obtain ⟨axis, htexts, hmem, hsorted⟩ := exists_axis zones
  refine ⟨fun ⟨axis', h⟩ a ha b hb hab => ?_, fun h => ⟨axis, htexts, ?_, fun i => ?_⟩⟩
  · have haxis : axis' = axis :=
      List.map_injective_iff.2 text_injective (h.texts.symm.trans htexts)
    exact (StableSort.pairwise_iff_forall hsorted fun _ _ => sortsBefore_asymm).1
      (haxis ▸ h.increasing) a ((hmem a).2 ha) b ((hmem b).2 hb) hab
  · exact (StableSort.pairwise_iff_forall hsorted fun _ _ => sortsBefore_asymm).2
      fun a ha b hb hab => h a ((hmem a).1 ha) b ((hmem b).1 hb) hab
  · simp only [List.mem_map, hmem]

/-- The length of a chronological axis is the number of distinct instants. -/
theorem Chronological.length_eq {zones : List (List Timestamp)} {axis : List Timestamp}
    (h : Chronological zones axis) : (mergeTimestamps (zones.map (List.map text))).length =
      (zones.flatten.map instant).toFinset.card := by
  have hnodup : (axis.map instant).Nodup :=
    List.pairwise_map.2 (h.increasing.imp fun hlt => hlt.ne)
  have hfinset : (axis.map instant).toFinset = (zones.flatten.map instant).toFinset := by
    ext i
    rw [List.mem_toFinset, List.mem_toFinset]
    exact h.complete i
  rw [← hfinset, List.toFinset_card_of_nodup hnodup, h.texts, List.length_map, List.length_map]

/-! ## The two orders -/

/-- If the text of `a` or `b` comes first, so does its instant: what it takes on the wall clocks, the
offsets and the microseconds. -/
structure TextOrdered (a b : Timestamp) : Prop where
  /-- The wall clocks are further apart than the offsets. -/
  wall : a.wall.seconds < b.wall.seconds → (b.offset.minutes - a.offset.minutes) * 60000000 <
    (b.wall.seconds - a.wall.seconds : ℤ) * 1000000 + b.micros - a.micros
  /-- Of two offsets the one whose text comes first, `+` before `-` before `Z`, is further ahead. -/
  offset : a.wall = b.wall → a.micros = b.micros → (a.offset.mark < b.offset.mark ∨
    a.offset.mark = b.offset.mark ∧ a.offset.magnitude < b.offset.magnitude) →
      b.offset.minutes < a.offset.minutes
  /-- A whole second in UTC comes behind its fractions. -/
  whole_utc : a.wall = b.wall → a.micros = 0 → b.micros ≠ 0 → a.offset = .utc → 0 < b.offset.minutes
  whole : a.wall = b.wall → a.micros = 0 → b.micros ≠ 0 → a.offset ≠ .utc →
    b.offset.minutes ≤ a.offset.minutes
  fraction : a.wall = b.wall → 0 < a.micros → a.micros < b.micros →
    b.offset.minutes ≤ a.offset.minutes

theorem mark_lt_two {o : UtcOffset} (ho : o ≠ .utc) : o.mark < 2 := by
  cases o with
  | utc => exact absurd rfl ho
  | offset negative _ _ _ _ => cases negative <;> simp [UtcOffset.mark]

theorem textOrdered_of_lt {a b : Timestamp} (hab : a.SortsBefore b → a.instant < b.instant)
    (hba : b.SortsBefore a → b.instant < a.instant) : TextOrdered a b := by
  have hmicros := a.micros_lt
  have hmicros' := b.micros_lt
  unfold SortsBefore SuffixBefore Timestamp.mark Timestamp.instant at hab hba
  refine ⟨fun hwall => ?_, fun hwall hsame horder => ?_, fun hwall hzero hne hutc => ?_,
    fun hwall hzero hne hutc => ?_, fun hwall hpos hlt => ?_⟩
  · have := hab (.inl hwall)
    omega
  · have := hab (.inr ⟨hwall, by split_ifs <;> omega⟩)
    rw [hwall] at this
    omega
  · have hmark : a.offset.mark = 3 := by rw [hutc]; rfl
    have hminutes : a.offset.minutes = 0 := by rw [hutc]; rfl
    have := hba (.inr ⟨hwall.symm, by rw [if_neg hne, if_pos hzero]; omega⟩)
    rw [hwall] at this
    omega
  · have hmark := mark_lt_two hutc
    have := hab (.inr ⟨hwall, by rw [if_neg hne, if_pos hzero]; omega⟩)
    rw [hwall] at this
    omega
  · have := hab (.inr ⟨hwall, by rw [if_neg (by omega), if_neg (by omega)]; omega⟩)
    rw [hwall] at this
    omega

theorem lt_of_textOrdered {a b : Timestamp} (h : TextOrdered a b) (h' : TextOrdered b a)
    (hab : a.SortsBefore b) : a.instant < b.instant := by
  have hmicros := a.micros_lt
  have hmicros' := b.micros_lt
  unfold Timestamp.instant
  rcases hab with hlt | ⟨hwall, hsuffix⟩
  · have := h.wall hlt
    omega
  · rw [hwall]
    unfold SuffixBefore Timestamp.mark at hsuffix
    by_cases hzero : a.micros = 0 <;> by_cases hzero' : b.micros = 0
    · rw [if_pos hzero, if_pos hzero'] at hsuffix
      have := h.offset hwall (by omega) (by omega)
      omega
    · rw [if_pos hzero, if_neg hzero'] at hsuffix
      have hutc : a.offset ≠ .utc := by
        intro hutc
        rw [hutc] at hsuffix
        simp only [UtcOffset.mark] at hsuffix
        omega
      have := h.whole hwall hzero hzero' hutc
      omega
    · rw [if_neg hzero, if_pos hzero'] at hsuffix
      have hutc : b.offset = .utc := by
        by_contra hutc
        have := mark_lt_two hutc
        omega
      have hminutes : b.offset.minutes = 0 := by rw [hutc]; rfl
      have := h'.whole_utc hwall.symm hzero' hzero hutc
      omega
    · rw [if_neg hzero, if_neg hzero'] at hsuffix
      by_cases hsame : a.micros = b.micros
      · have := h.offset hwall hsame (by omega)
        omega
      · have := h.fraction hwall (by omega) (by omega)
        omega

/-- The two orders agree iff any two timestamps do. -/
theorem inTextOrder_iff {zones : List (List Timestamp)} : InTextOrder zones ↔
    ∀ a ∈ zones.flatten, ∀ b ∈ zones.flatten, TextOrdered a b :=
  ⟨fun h a ha b hb => textOrdered_of_lt (h a ha b hb) (h b hb a ha),
    fun h a ha b hb => lt_of_textOrdered (h a ha b hb) (h b hb a ha)⟩

/-! ## One offset -/

/-- In UTC a whole second is sorted behind its fractions. -/
theorem inTextOrder_utc {zones : List (List Timestamp)}
    (hutc : ∀ t ∈ zones.flatten, t.offset = .utc) : InTextOrder zones ↔
      ∀ a ∈ zones.flatten, ∀ b ∈ zones.flatten, a.wall = b.wall → (a.micros = 0 ↔ b.micros = 0) := by
  have hmark : ∀ t ∈ zones.flatten, t.mark = if t.micros = 0 then 3 else 2 := by
    intro t ht
    rw [Timestamp.mark, hutc t ht]
    rfl
  have hinstant : ∀ t ∈ zones.flatten,
      t.instant = (t.wall.seconds - epochSeconds) * 1000000 + t.micros := by
    intro t ht
    rw [Timestamp.instant, hutc t ht, UtcOffset.minutes]
    omega
  have hfraction : InTextOrder zones → ∀ a ∈ zones.flatten, ∀ b ∈ zones.flatten, a.wall = b.wall →
      a.micros = 0 → b.micros = 0 := by
    intro h a ha b hb hwall hzero
    by_contra hne
    have hbefore : b.SortsBefore a := by
      refine .inr ⟨hwall.symm, .inl ?_⟩
      rw [hmark a ha, hmark b hb, if_pos hzero, if_neg hne]
      decide
    have hlt := h b hb a ha hbefore
    rw [hinstant a ha, hinstant b hb, hwall, hzero] at hlt
    omega
  refine ⟨fun h a ha b hb hwall => ⟨hfraction h a ha b hb hwall, hfraction h b hb a ha hwall.symm⟩,
    fun h a ha b hb hab => ?_⟩
  rw [hinstant a ha, hinstant b hb]
  have hmicros := a.micros_lt
  rcases hab with hlt | ⟨hwall, hsuffix⟩
  · omega
  · have hiff := h a ha b hb hwall
    unfold SuffixBefore at hsuffix
    rw [hmark a ha, hmark b hb, hutc a ha, hutc b hb] at hsuffix
    rw [hwall]
    split_ifs at hsuffix <;> omega

/-- With one offset `±hh:mm` the texts are in the order of time. -/
theorem inTextOrder_offset {zones : List (List Timestamp)} {o : UtcOffset} (ho : o ≠ .utc)
    (hoffset : ∀ t ∈ zones.flatten, t.offset = o) : InTextOrder zones := by
  have hmark := mark_lt_two ho
  intro a ha b hb hab
  have hmicros := a.micros_lt
  unfold Timestamp.instant
  rw [hoffset a ha, hoffset b hb]
  rcases hab with hlt | ⟨hwall, hsuffix⟩
  · omega
  · unfold SuffixBefore Timestamp.mark at hsuffix
    rw [hoffset a ha, hoffset b hb] at hsuffix
    rw [hwall]
    split_ifs at hsuffix <;> omega

/-! ## The axis of a replay -/

/-- `tick_count` counts the instants of the zones. -/
theorem buildReplay_tickCount {R Uuid : Type} [Field R] [LinearOrder R] [DecidableEq Uuid]
    {T : Py.Text R Uuid} {floatStr1 : R → String} {db : Db R Uuid} {zoneIds : List Uuid}
    {startTime endTime : Py.DateTime} {data : Replay.ReplayData R Uuid}
    (hdata : Replay.buildReplay T floatStr1 db zoneIds startTime endTime = .ok data)
    {zones : List (List Timestamp)} (h : zones.map (List.map instant) =
      data.zoneTimelines.map fun t => t.assessments.map RiskAssessment.timestamp) :
    data.tickCount = (zones.flatten.map instant).toFinset.card := by
  obtain ⟨-, rfl⟩ := Replay.buildReplay_eq_ok.1 hdata
  rw [List.map_flatten, h, ← List.flatMap_def]
  rfl

/-- **The axis is chronological iff the order of the texts is the order of time**, and it is then as long
as the backend counts. Where all timestamps are in UTC it is iff no second has both a whole and a
fractional timestamp, and with one offset `±hh:mm` it always is. -/
theorem mergeTimestamps_chronological_iff {R Uuid : Type} [Field R] [LinearOrder R]
    [DecidableEq Uuid] (T : Py.Text R Uuid) (floatStr1 : R → String)
    (zones : List (List Timestamp)) :
    ((∃ axis, Chronological zones axis) ↔ InTextOrder zones) ∧
    (InTextOrder zones ↔ ∀ a ∈ zones.flatten, ∀ b ∈ zones.flatten, TextOrdered a b) ∧
    (∀ (db : Db R Uuid) (zoneIds : List Uuid) (startTime endTime : Py.DateTime)
      (data : Replay.ReplayData R Uuid),
      Replay.buildReplay T floatStr1 db zoneIds startTime endTime = .ok data →
        zones.map (List.map instant) =
            data.zoneTimelines.map (fun t => t.assessments.map RiskAssessment.timestamp) →
          InTextOrder zones →
            (mergeTimestamps (zones.map (List.map text))).length = data.tickCount) ∧
    ((∀ t ∈ zones.flatten, t.offset = .utc) → (InTextOrder zones ↔
      ∀ a ∈ zones.flatten, ∀ b ∈ zones.flatten, a.wall = b.wall → (a.micros = 0 ↔ b.micros = 0))) ∧
    ∀ o ≠ UtcOffset.utc, (∀ t ∈ zones.flatten, t.offset = o) → InTextOrder zones := by
  refine ⟨exists_chronological_iff, inTextOrder_iff,
    fun db zoneIds startTime endTime data hdata hzones horder => ?_, inTextOrder_utc,
    fun o => inTextOrder_offset⟩
  obtain ⟨axis, haxis⟩ := exists_chronological_iff.2 horder
  rw [haxis.length_eq, buildReplay_tickCount hdata hzones]

/-- A minute past midnight on 1 January 2026, and half a second later. -/
def wholeMinute (micros : ℕ) (h : micros < 1000000) : Timestamp where
  wall := ⟨⟨2026, 1, 1, by decide, by decide, by decide, by decide, by decide⟩, 0, 1, 0, by decide,
    by decide, by decide⟩
  micros := micros
  offset := .utc
  year_lt := by decide
  micros_lt := h

/-- A whole second comes behind its half. -/
theorem whole_second_sorted_last :
    (¬∀ zones : List (List Timestamp), ∃ axis, Chronological zones axis) ∧
    mergeTimestamps [["2026-01-01T00:01:00Z", "2026-01-01T00:01:00.500000Z"]] =
      ["2026-01-01T00:01:00.500000Z", "2026-01-01T00:01:00Z"] ∧
    (wholeMinute 0 (by decide)).text = "2026-01-01T00:01:00Z" ∧
    (wholeMinute 500000 (by decide)).text = "2026-01-01T00:01:00.500000Z" := by
  refine ⟨fun h => ?_, by decide +kernel, by decide +kernel, by decide +kernel⟩
  have horder := exists_chronological_iff.1
    (h [[wholeMinute 0 (by decide), wholeMinute 500000 (by decide)]])
  have hsame := (inTextOrder_utc (fun t ht => ?_)).1 horder (wholeMinute 0 (by decide)) (by simp)
    (wholeMinute 500000 (by decide)) (by simp) rfl
  · exact absurd (hsame.1 rfl) (by decide)
  · rcases List.mem_cons.1 ht with rfl | ht
    · rfl
    · rw [List.mem_singleton.1 ht]
      rfl

end Frontend
