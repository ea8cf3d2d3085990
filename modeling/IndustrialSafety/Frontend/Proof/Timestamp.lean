import IndustrialSafety.Frontend.ReplayTimeline
import IndustrialSafety.Frontend.Timestamp

/-!
# The order of timestamp texts

Two texts are compared on the wall clock, then on the character behind the seconds (`+` before `-` before
`.` before `Z`), then on the microseconds and on the offset (`text_lt_iff`). A text determines its
timestamp (`text_injective`).
-/

namespace Frontend

open Calendar Numeral

/-! ## Code units -/

/-- Below `U+10000` a character is its code unit. -/
theorem codeUnits_ofList {l : List Char} (h : ∀ c ∈ l, c.toNat < 128) :
    codeUnits (String.ofList l) = units l := by
  rw [codeUnits, String.toList_ofList]
  induction l with
  | nil => rfl
  | cons c l ih =>
    have hc : utf16 c = [c.toNat] := if_pos ((h c (.head _)).trans (by decide))
    rw [List.flatMap_cons, hc, ih fun d hd => h d (.tail _ hd)]
    rfl

namespace UtcOffset

/-- The place of the first character of an offset. -/
def mark : UtcOffset → ℕ
  | utc => 3
  | offset negative _ _ _ _ => if negative then 1 else 0

/-- The minutes of an offset without the sign. -/
def magnitude : UtcOffset → ℕ
  | utc => 0
  | offset _ hours minutes _ _ => hours * 60 + minutes

theorem chars_ascii (o : UtcOffset) : ∀ c ∈ o.chars, c.toNat < 128 := by
  intro c hc
  cases o with
  | utc =>
    rw [List.mem_singleton.1 hc]
    decide
  | offset negative hours minutes _ _ =>
    rcases List.mem_append.1 hc with hc | hc
    · rcases List.mem_cons.1 hc with rfl | hc
      · cases negative <;> decide
      · exact toNat_lt_of_mem_padded hc
    · rcases List.mem_cons.1 hc with rfl | hc
      · decide
      · exact toNat_lt_of_mem_padded hc

theorem units_offset (negative : Bool) (hours minutes : ℕ) (hh : hours < 24) (hm : minutes < 60) :
    units (offset negative hours minutes hh hm).chars =
      (if negative then 45 else 43) :: (units (padded 2 hours) ++ 58 :: units (padded 2 minutes)) := by
  cases negative <;> simp [chars]

/-- A sign stands before the point of a fraction, `Z` behind it. -/
theorem exists_units_cons (o : UtcOffset) : ∃ u l, units o.chars = u :: l ∧
    (u < 46 ∧ o.mark < 2 ∨ 46 < u ∧ 2 < o.mark) := by
  cases o with
  | utc => exact ⟨90, [], rfl, .inr ⟨by decide, by decide⟩⟩
  | offset negative hours minutes hh hm =>
    refine ⟨_, _, units_offset negative hours minutes hh hm, .inl ?_⟩
    cases negative <;> simp [mark]

/-- Offsets are compared on their first character, then on the minutes. -/
theorem units_lt_iff (o o' : UtcOffset) : units o.chars < units o'.chars ↔
    o.mark < o'.mark ∨ o.mark = o'.mark ∧ o.magnitude < o'.magnitude := by
  cases o with
  | utc =>
    cases o' with
    | utc => exact iff_of_false (lt_irrefl _) (by decide)
    | offset negative hours minutes hh hm =>
      rw [units_offset]
      show [90] < _ ↔ _
      rw [List.cons_lt_cons_iff]
      cases negative <;> simp [mark]
  | offset negative hours minutes hh hm =>
    cases o' with
    | utc =>
      rw [units_offset]
      show _ < [90] ↔ _
      rw [List.cons_lt_cons_iff]
      cases negative <;> simp [mark]
    | offset negative' hours' minutes' hh' hm' =>
      have hdigits : units (padded 2 hours) ++ 58 :: units (padded 2 minutes) <
          units (padded 2 hours') ++ 58 :: units (padded 2 minutes') ↔
            hours * 60 + minutes < hours' * 60 + minutes' := by
        rw [padded_append_lt_iff (by omega) (by omega), List.cons_lt_cons_self,
          padded_lt_iff (by omega) (by omega)]
        omega
      rw [units_offset, units_offset, List.cons_lt_cons_iff, hdigits]
      cases negative <;> cases negative' <;> simp [mark, magnitude]

theorem ext_mark {o o' : UtcOffset} (hmark : o.mark = o'.mark)
    (hmagnitude : o.magnitude = o'.magnitude) : o = o' := by
  cases o with
  | utc =>
    cases o' with
    | utc => rfl
    | offset negative _ _ _ _ => cases negative <;> cases hmark
  | offset negative hours minutes hh hm =>
    cases o' with
    | utc => cases negative <;> cases hmark
    | offset negative' hours' minutes' hh' hm' =>
      have hnegative : negative = negative' := by
        cases negative <;> cases negative' <;> first | rfl | cases hmark
      unfold magnitude at hmagnitude
      dsimp only at hmagnitude
      have hhours : hours = hours' := by omega
      have hminutes : minutes = minutes' := by omega
      cases hnegative
      cases hhours
      cases hminutes
      rfl

end UtcOffset

namespace Timestamp

variable {a b : Timestamp}

/-! ## Suffixes -/

/-- The place of the first character behind the seconds. -/
def mark (t : Timestamp) : ℕ := if t.micros = 0 then t.offset.mark else 2

/-- The order of the suffixes. -/
def SuffixBefore (a b : Timestamp) : Prop :=
  a.mark < b.mark ∨ a.mark = b.mark ∧ (a.micros < b.micros ∨ a.micros = b.micros ∧
    (a.offset.mark < b.offset.mark ∨
      a.offset.mark = b.offset.mark ∧ a.offset.magnitude < b.offset.magnitude))

theorem suffix_of_zero (h : a.micros = 0) : units a.suffix = units a.offset.chars := by
  rw [suffix, if_pos h, List.nil_append]

theorem suffix_of_ne (h : a.micros ≠ 0) : units a.suffix =
    46 :: (units (padded 6 a.micros) ++ units a.offset.chars) := by
  rw [suffix, if_neg h]
  simp

theorem suffix_lt_iff (a b : Timestamp) :
    units a.suffix < units b.suffix ↔ a.SuffixBefore b := by
  unfold SuffixBefore mark
  by_cases ha : a.micros = 0
  · by_cases hb : b.micros = 0
    · rw [suffix_of_zero ha, suffix_of_zero hb, UtcOffset.units_lt_iff, if_pos ha, if_pos hb]
      omega
    · obtain ⟨u, l, hu, hmark⟩ := a.offset.exists_units_cons
      rw [suffix_of_zero ha, suffix_of_ne hb, hu, List.cons_lt_cons_iff, if_pos ha, if_neg hb]
      have hne : u ≠ 46 := by omega
      simp only [hne, false_and, or_false]
      omega
  · by_cases hb : b.micros = 0
    · obtain ⟨u, l, hu, hmark⟩ := b.offset.exists_units_cons
      rw [suffix_of_ne ha, suffix_of_zero hb, hu, List.cons_lt_cons_iff, if_neg ha, if_pos hb]
      have hne : 46 ≠ u := by omega
      simp only [hne, false_and, or_false]
      omega
    · rw [suffix_of_ne ha, suffix_of_ne hb, List.cons_lt_cons_self,
        padded_append_lt_iff a.micros_lt b.micros_lt, UtcOffset.units_lt_iff, if_neg ha, if_neg hb]
      omega

/-! ## Texts -/

theorem chars_ascii (t : Timestamp) : ∀ c ∈ t.chars, c.toNat < 128 := by
  have hdash : ('-').toNat < 128 := by decide
  have hT : ('T').toNat < 128 := by decide
  have hcolon : (':').toNat < 128 := by decide
  have hpoint : ('.').toNat < 128 := by decide
  have hdigits : ∀ w n, ∀ c ∈ padded w n, c.toNat < 128 := fun _ _ _ => toNat_lt_of_mem_padded
  have hsuffix : ∀ c ∈ t.suffix, c.toNat < 128 := by
    unfold suffix
    intro c hc
    rcases List.mem_append.1 hc with hc | hc
    · split at hc
      · cases hc
      · rcases List.mem_cons.1 hc with rfl | hc
        · exact hpoint
        · exact hdigits _ _ c hc
    · exact t.offset.chars_ascii c hc
  unfold chars
  simp only [List.forall_mem_append, List.forall_mem_cons]
  exact ⟨⟨⟨⟨⟨⟨hdigits _ _, hdash, hdigits _ _⟩, hdash, hdigits _ _⟩, hT, hdigits _ _⟩, hcolon,
    hdigits _ _⟩, hcolon, hdigits _ _⟩, hsuffix⟩

theorem month_lt (d : Date) : d.month < 10 ^ 2 := d.month_le.trans_lt (by decide)

theorem day_lt (d : Date) : d.day < 10 ^ 2 := by
  have hle : ∀ year month, daysInMonth year month ≤ 31 := by
    intro year month
    unfold daysInMonth
    split
    · split <;> decide
    all_goals decide
  exact (d.day_le.trans (hle _ _)).trans_lt (by decide)

theorem units_chars (t : Timestamp) : units t.chars = units (padded 4 t.wall.date.year) ++ 45 ::
    (units (padded 2 t.wall.date.month) ++ 45 :: (units (padded 2 t.wall.date.day) ++ 84 ::
      (units (padded 2 t.wall.hour) ++ 58 :: (units (padded 2 t.wall.minute) ++ 58 ::
        (units (padded 2 t.wall.second) ++ units t.suffix))))) := by
  rw [chars]
  simp only [units_append, units_cons, List.append_assoc, List.cons_append]
  rfl

/-- The order of the texts: on the wall clock, then on the suffix. -/
def SortsBefore (a b : Timestamp) : Prop :=
  a.wall.seconds < b.wall.seconds ∨ a.wall = b.wall ∧ a.SuffixBefore b

/-- **Texts are compared on the wall clock, then on the suffix.** -/
theorem text_lt_iff (a b : Timestamp) :
    codeUnits a.text < codeUnits b.text ↔ a.SortsBefore b := by
  unfold SortsBefore
  have hclock : ∀ w : Wall, w.hour < 10 ^ 2 ∧ w.minute < 10 ^ 2 ∧ w.second < 10 ^ 2 := fun w =>
    ⟨w.hour_lt.trans (by decide), w.minute_lt.trans (by decide), w.second_lt.trans (by decide)⟩
  obtain ⟨hha, hma, hsa⟩ := hclock a.wall
  obtain ⟨hhb, hmb, hsb⟩ := hclock b.wall
  rw [text, text, codeUnits_ofList a.chars_ascii, codeUnits_ofList b.chars_ascii, units_chars,
    units_chars, padded_append_lt_iff a.year_lt b.year_lt, List.cons_lt_cons_self,
    padded_append_lt_iff (month_lt _) (month_lt _), List.cons_lt_cons_self,
    padded_append_lt_iff (day_lt _) (day_lt _), List.cons_lt_cons_self,
    padded_append_lt_iff hha hhb, List.cons_lt_cons_self, padded_append_lt_iff hma hmb,
    List.cons_lt_cons_self, padded_append_lt_iff hsa hsb, suffix_lt_iff, Wall.seconds_lt_iff,
    Wall.Before, Wall.ext_fields_iff]
  by_cases hsuffix : a.SuffixBefore b
  · simp only [hsuffix, and_true]
    omega
  · simp only [hsuffix, and_false, or_false]

/-- A text belongs to one timestamp. -/
theorem eq_of_codeUnits (hunits : codeUnits a.text = codeUnits b.text) : a = b := by
  have hnlt := not_lt.2 hunits.ge
  have hngt := not_lt.2 hunits.le
  rw [text_lt_iff, SortsBefore] at hnlt hngt
  have hwall : a.wall = b.wall := Wall.seconds_inj.1 (by omega)
  have hsuffix : ¬a.SuffixBefore b := fun hs => hnlt (.inr ⟨hwall, hs⟩)
  have hsuffix' : ¬b.SuffixBefore a := fun hs => hngt (.inr ⟨hwall.symm, hs⟩)
  unfold SuffixBefore at hsuffix hsuffix'
  have hmicros : a.micros = b.micros := by omega
  have hoffset : a.offset = b.offset := UtcOffset.ext_mark (by omega) (by omega)
  cases a
  cases b
  cases hwall
  cases hmicros
  cases hoffset
  rfl

theorem text_injective : Function.Injective text := fun _ _ h => eq_of_codeUnits (by rw [h])

end Timestamp

end Frontend
