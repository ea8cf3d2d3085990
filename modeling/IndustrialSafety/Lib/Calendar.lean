import Mathlib.Data.Prod.Lex

/-!
# The Gregorian calendar

`Date.ordinal`: the number of a day, with 1 January of the year 1 as day 1. Dates and wall clocks in the
order of their fields are in the order of time (`Date.ordinal_lt`, `Wall.seconds_lt_iff`).
-/

namespace Calendar

def IsLeap (year : ℕ) : Prop := year % 4 = 0 ∧ (year % 100 ≠ 0 ∨ year % 400 = 0)

instance (year : ℕ) : Decidable (IsLeap year) := inferInstanceAs (Decidable (_ ∧ _))

def yearLength (year : ℕ) : ℕ := if IsLeap year then 366 else 365

/-- The days of the years before. -/
def daysBeforeYear (year : ℕ) : ℕ :=
  (year - 1) * 365 + (year - 1) / 4 - (year - 1) / 100 + (year - 1) / 400

def daysInMonth (year : ℕ) : ℕ → ℕ
  | 2 => if IsLeap year then 29 else 28
  | 4 | 6 | 9 | 11 => 30
  | _ => 31

/-- The days of the months before, from month 1 on. -/
def daysBeforeMonth (year : ℕ) : ℕ → ℕ
  | 0 => 0
  | 1 => 0
  | month + 2 => daysBeforeMonth year (month + 1) + daysInMonth year (month + 1)

structure Date where
  year : ℕ
  month : ℕ
  day : ℕ
  one_le_year : 1 ≤ year
  one_le_month : 1 ≤ month
  month_le : month ≤ 12
  one_le_day : 1 ≤ day
  day_le : day ≤ daysInMonth year month
deriving DecidableEq

theorem div_succ (n d : ℕ) :
    (n + 1) / d = n / d + if (n + 1) % d = 0 then 1 else 0 := by
  rw [Nat.succ_div]
  simp only [Nat.dvd_iff_mod_eq_zero]

theorem daysBeforeYear_succ {year : ℕ} (h : 1 ≤ year) :
    daysBeforeYear (year + 1) = daysBeforeYear year + yearLength year := by
  obtain ⟨n, rfl⟩ : ∃ n, year = n + 1 := ⟨year - 1, by omega⟩
  unfold daysBeforeYear yearLength IsLeap
  simp only [Nat.add_sub_cancel]
  -- each of the three quotients grows where its divisor divides the year
  rw [div_succ n 4, div_succ n 100, div_succ n 400]
  have hle : n / 100 ≤ n / 4 := Nat.div_le_div_left (by decide) (by decide)
  have h100 : (n + 1) % 400 = 0 → (n + 1) % 100 = 0 := by omega
  have h4 : (n + 1) % 100 = 0 → (n + 1) % 4 = 0 := by omega
  generalize n / 4 = a at hle ⊢
  generalize n / 100 = b at hle ⊢
  by_cases h1 : (n + 1) % 4 = 0
  · by_cases h2 : (n + 1) % 100 = 0
    · by_cases h3 : (n + 1) % 400 = 0
      · simp [h1, h2, h3]
        omega
      · simp [h1, h2, h3]
        omega
    · have h3 : ¬(n + 1) % 400 = 0 := fun h => h2 (h100 h)
      simp [h1, h2, h3]
      omega
  · have h2 : ¬(n + 1) % 100 = 0 := fun h => h1 (h4 h)
    have h3 : ¬(n + 1) % 400 = 0 := fun h => h2 (h100 h)
    simp [h1, h2, h3]
    omega

theorem daysBeforeYear_mono {year year' : ℕ} (h : 1 ≤ year) (hlt : year < year') :
    daysBeforeYear year + yearLength year ≤ daysBeforeYear year' := by
  induction year', hlt using Nat.le_induction with
  | base => exact (daysBeforeYear_succ h).ge
  | succ year' hle ih =>
    rw [daysBeforeYear_succ (by omega)]
    omega

theorem daysBeforeMonth_mono (year : ℕ) {month month' : ℕ} (h : 1 ≤ month)
    (hlt : month < month') :
    daysBeforeMonth year month + daysInMonth year month ≤ daysBeforeMonth year month' := by
  obtain ⟨month, rfl⟩ : ∃ m, month = m + 1 := ⟨month - 1, by omega⟩
  induction month', hlt using Nat.le_induction with
  | base => exact le_rfl
  | succ month' hle ih =>
    obtain ⟨month', rfl⟩ : ∃ m, month' = m + 1 := ⟨month' - 1, by omega⟩
    exact ih.trans (Nat.le_add_right _ _)

theorem daysBeforeMonth_thirteen (year : ℕ) : daysBeforeMonth year 13 = yearLength year := by
  by_cases h : IsLeap year <;> simp [daysBeforeMonth, daysInMonth, yearLength, h]

namespace Date

def ordinal (d : Date) : ℕ := daysBeforeYear d.year + daysBeforeMonth d.year d.month + d.day

/-- The day is in its year. -/
theorem month_day_le (d : Date) : daysBeforeMonth d.year d.month + d.day ≤ yearLength d.year := by
  have hmonth := daysBeforeMonth_mono d.year d.one_le_month (Nat.lt_succ_of_le d.month_le)
  rw [daysBeforeMonth_thirteen] at hmonth
  have hday := d.day_le
  omega

/-- **Dates are in the order of year, month and day.** -/
theorem ordinal_lt {d d' : Date}
    (h : d.year < d'.year ∨ d.year = d'.year ∧ (d.month < d'.month ∨
      d.month = d'.month ∧ d.day < d'.day)) : d.ordinal < d'.ordinal := by
  unfold ordinal
  rcases h with hyear | ⟨hyear, hmonth | ⟨hmonth, hday⟩⟩
  · have hyears := daysBeforeYear_mono d.one_le_year hyear
    have hle := d.month_day_le
    have hpos := d'.one_le_day
    omega
  · have hmonths := daysBeforeMonth_mono d.year d.one_le_month hmonth
    have hle := d.day_le
    have hpos := d'.one_le_day
    rw [hyear] at hmonths hle ⊢
    omega
  · rw [hyear, hmonth]
    omega

theorem ext_fields {d d' : Date} (hyear : d.year = d'.year) (hmonth : d.month = d'.month)
    (hday : d.day = d'.day) : d = d' := by
  cases d
  cases d'
  cases hyear
  cases hmonth
  cases hday
  rfl

end Date

/-! ## Wall clocks -/

/-- What a calendar and a clock show. -/
structure Wall where
  date : Date
  hour : ℕ
  minute : ℕ
  second : ℕ
  hour_lt : hour < 24
  minute_lt : minute < 60
  second_lt : second < 60
deriving DecidableEq

namespace Wall

def seconds (w : Wall) : ℕ := ((w.date.ordinal * 24 + w.hour) * 60 + w.minute) * 60 + w.second

/-- The order of the fields, from the year to the second. -/
def Before (w w' : Wall) : Prop :=
  w.date.year < w'.date.year ∨ w.date.year = w'.date.year ∧ (w.date.month < w'.date.month ∨
    w.date.month = w'.date.month ∧ (w.date.day < w'.date.day ∨ w.date.day = w'.date.day ∧
      (w.hour < w'.hour ∨ w.hour = w'.hour ∧ (w.minute < w'.minute ∨
        w.minute = w'.minute ∧ w.second < w'.second))))

theorem seconds_lt {w w' : Wall} (h : w.Before w') : w.seconds < w'.seconds := by
  have hhour := w.hour_lt
  have hminute := w.minute_lt
  have hsecond := w.second_lt
  unfold seconds
  have hdate : ∀ {P : Prop}, (w.date.year < w'.date.year ∨ w.date.year = w'.date.year ∧
      (w.date.month < w'.date.month ∨ w.date.month = w'.date.month ∧
        (w.date.day < w'.date.day ∨ w.date.day = w'.date.day ∧ P))) →
      w.date.ordinal < w'.date.ordinal ∨ w.date = w'.date ∧ P := by
    intro P h
    rcases h with h | ⟨hyear, h | ⟨hmonth, h | ⟨hday, h⟩⟩⟩
    · exact .inl (Date.ordinal_lt (.inl h))
    · exact .inl (Date.ordinal_lt (.inr ⟨hyear, .inl h⟩))
    · exact .inl (Date.ordinal_lt (.inr ⟨hyear, .inr ⟨hmonth, h⟩⟩))
    · exact .inr ⟨Date.ext_fields hyear hmonth hday, h⟩
  rcases hdate h with hday | ⟨hday, htime⟩
  · omega
  · rw [hday]
    omega

theorem ext_fields_iff {w w' : Wall} : w = w' ↔ w.date.year = w'.date.year ∧
    w.date.month = w'.date.month ∧ w.date.day = w'.date.day ∧ w.hour = w'.hour ∧
      w.minute = w'.minute ∧ w.second = w'.second := by
  refine ⟨fun h => by rw [h]; exact ⟨rfl, rfl, rfl, rfl, rfl, rfl⟩, fun h => ?_⟩
  obtain ⟨hyear, hmonth, hday, hhour, hminute, hsecond⟩ := h
  have hdate := Date.ext_fields hyear hmonth hday
  cases w
  cases w'
  cases hdate
  cases hhour
  cases hminute
  cases hsecond
  rfl

theorem before_trichotomy (w w' : Wall) : w.Before w' ∨ w = w' ∨ w'.Before w := by
  by_cases h : w.Before w' ∨ w'.Before w
  · rcases h with h | h
    · exact .inl h
    · exact .inr (.inr h)
  · refine .inr (.inl ?_)
    unfold Before at h
    rw [ext_fields_iff]
    omega

/-- **The order of the fields is the order of time.** -/
theorem seconds_lt_iff {w w' : Wall} : w.seconds < w'.seconds ↔ w.Before w' := by
  refine ⟨fun h => ?_, seconds_lt⟩
  rcases before_trichotomy w w' with hlt | rfl | hgt
  · exact hlt
  · omega
  · have := seconds_lt hgt
    omega

theorem seconds_inj {w w' : Wall} : w.seconds = w'.seconds ↔ w = w' := by
  refine ⟨fun h => ?_, fun h => by rw [h]⟩
  rcases before_trichotomy w w' with hlt | rfl | hgt
  · have := seconds_lt hlt
    omega
  · rfl
  · have := seconds_lt hgt
    omega

end Wall

end Calendar
