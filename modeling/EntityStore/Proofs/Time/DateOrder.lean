import EntityStore.Proofs.Time.Calendar
import Mathlib.Tactic.Tauto

/-!
# Dates in order

The months of a year have as many days together as lie between the beginnings of the year and of the
next one (`daysBeforeMonth_end`).  So the number of a day is in the bounds of its year, and within the
year in those of its month, and dates are in the order of their numbers (`dayNumber_lt_iff`).

For the other direction the search for the year of a day goes on for long enough
(`le_daysBeforeYear_yearOfDay`), so that the date that is found for a number is one that there is
(`ofDayNumber_exists`).
-/

namespace EntityStore

/-- A date that there is in the calendar, in whatever year. -/
structure Date.Exists (d : Date) : Prop where
  year : 0 < d.year
  month : 0 < d.month ∧ d.month ≤ 12
  day : 0 < d.day ∧ d.day ≤ Calendar.daysInMonth d.year d.month

/-- Of two dates the years decide, then the months and then the days. -/
def Date.Before (d d' : Date) : Prop :=
  d.year < d'.year ∨ d.year = d'.year ∧ (d.month < d'.month ∨ d.month = d'.month ∧ d.day < d'.day)

theorem Date.before_trichotomy (d d' : Date) : d.Before d' ∨ d = d' ∨ d'.Before d := by
  obtain ⟨year, month, day⟩ := d
  obtain ⟨year', month', day'⟩ := d'
  simp only [Before, Date.mk.injEq]
  omega

namespace Calendar

/-! ### Years -/

/-- How many days a year has. -/
def daysInYear (year : Nat) : Nat := if isLeap year then 366 else 365

theorem isLeap_iff (year : Nat) :
    isLeap year = true ↔ 4 ∣ year ∧ (¬ 100 ∣ year ∨ 400 ∣ year) := by
  rw [isLeap, Bool.and_eq_true, Bool.or_eq_true, decide_eq_true_eq, decide_eq_true_eq,
    decide_eq_true_eq, Nat.dvd_iff_mod_eq_zero, Nat.dvd_iff_mod_eq_zero, Nat.dvd_iff_mod_eq_zero]

theorem daysBeforeYear_succ {year : Nat} (hyear : 0 < year) :
    daysBeforeYear (year + 1) = daysBeforeYear year + daysInYear year := by
  obtain ⟨y, rfl⟩ : ∃ y, year = y + 1 := ⟨year - 1, by omega⟩
  show 365 * (y + 1) + (y + 1) / 4 - (y + 1) / 100 + (y + 1) / 400
    = 365 * y + y / 4 - y / 100 + y / 400 + daysInYear (y + 1)
  have hcenturies : y / 100 ≤ y := Nat.div_le_self ..
  have h100 : 400 ∣ y + 1 → 100 ∣ y + 1 := Nat.dvd_trans (by decide)
  have h4 : 100 ∣ y + 1 → 4 ∣ y + 1 := Nat.dvd_trans (by decide)
  rw [Nat.succ_div, Nat.succ_div, Nat.succ_div, daysInYear, if_congr (isLeap_iff _) rfl rfl]
  generalize y / 4 = fours, y / 100 = centuries, y / 400 = cycles at *
  by_cases hfour : 4 ∣ y + 1
  · by_cases hcentury : 100 ∣ y + 1
    · by_cases hcycle : 400 ∣ y + 1
      · rw [if_pos hfour, if_pos hcentury, if_pos hcycle, if_pos ⟨hfour, .inr hcycle⟩]
        omega
      · rw [if_pos hfour, if_pos hcentury, if_neg hcycle, if_neg (by tauto)]
        omega
    · rw [if_pos hfour, if_neg hcentury, if_neg (mt h100 hcentury), if_pos ⟨hfour, .inl hcentury⟩]
      omega
  · have hcentury := mt h4 hfour
    rw [if_neg hfour, if_neg hcentury, if_neg (mt h100 hcentury), if_neg (by tauto)]
    omega

theorem daysBeforeYear_mono {year year' : Nat} (hyear : 0 < year) (h : year ≤ year') :
    daysBeforeYear year ≤ daysBeforeYear year' := by
  obtain ⟨k, rfl⟩ := Nat.exists_eq_add_of_le h
  clear h
  induction k with
  | zero => exact Nat.le_refl _
  | succ k ih =>
    rw [← Nat.add_assoc, daysBeforeYear_succ (by omega)]
    exact Nat.le_add_right_of_le ih

/-! ### Months -/

/-- **The months of a year have all its days.** -/
theorem daysBeforeMonth_end (year : Nat) : daysBeforeMonth year 13 = daysInYear year := by
  have hmonths : daysBeforeMonth year 13
      = 31 + (daysInMonth year 2 + (31 + (30 + (31 + (30 + (31 + (31 + (30 + (31 + (30 + 31)))))))))) :=
    rfl
  have hfebruary : daysInMonth year 2 = if isLeap year then 29 else 28 := rfl
  rw [hmonths, hfebruary, daysInYear]
  split <;> rfl

theorem daysBeforeMonth_mono (year : Nat) {month month' : Nat} (hmonth : 0 < month)
    (h : month ≤ month') : daysBeforeMonth year month ≤ daysBeforeMonth year month' := by
  obtain ⟨k, rfl⟩ := Nat.exists_eq_add_of_le h
  clear h
  induction k with
  | zero => exact Nat.le_refl _
  | succ k ih =>
    rw [← Nat.add_assoc, daysBeforeMonth_succ year (by omega)]
    exact Nat.le_add_right_of_le ih

/-- A date lies within the month that it names, -/
theorem daysBeforeMonth_add_day {d : Date} (h : d.Exists) :
    daysBeforeMonth d.year d.month + d.day ≤ daysBeforeMonth d.year (d.month + 1) := by
  rw [daysBeforeMonth_succ d.year h.month.1]
  exact Nat.add_le_add_left h.day.2 _

/-- and within the year. -/
theorem dayNumber_le {d : Date} (h : d.Exists) : dayNumber d ≤ daysBeforeYear (d.year + 1) := by
  have hmonth := daysBeforeMonth_add_day h
  have hend : daysBeforeMonth d.year (d.month + 1) ≤ daysBeforeMonth d.year 13 :=
    daysBeforeMonth_mono d.year (Nat.succ_pos d.month) (Nat.succ_le_succ h.month.2)
  rw [daysBeforeMonth_end] at hend
  rw [daysBeforeYear_succ h.year, dayNumber]
  omega

theorem dayNumber_lt_of_before {d d' : Date} (h : d.Exists) (h' : d'.Exists)
    (hbefore : d.Before d') : dayNumber d < dayNumber d' := by
  have hday' := h'.day.1
  rcases hbefore with hyear | ⟨hyear, hmonth | ⟨hmonth, hday⟩⟩
  · have hnext : daysBeforeYear (d.year + 1) ≤ daysBeforeYear d'.year :=
      daysBeforeYear_mono (Nat.succ_pos d.year) hyear
    have hlast := dayNumber_le h
    unfold dayNumber at hlast ⊢
    omega
  · have hnext : daysBeforeMonth d.year (d.month + 1) ≤ daysBeforeMonth d.year d'.month :=
      daysBeforeMonth_mono d.year (Nat.succ_pos d.month) hmonth
    have hlast := daysBeforeMonth_add_day h
    unfold dayNumber
    rw [← hyear]
    omega
  · unfold dayNumber
    rw [← hyear, ← hmonth]
    omega

/-- **Dates are in the order of their numbers.** -/
theorem dayNumber_lt_iff {d d' : Date} (h : d.Exists) (h' : d'.Exists) :
    dayNumber d < dayNumber d' ↔ d.Before d' := by
  constructor
  · intro hlt
    rcases d.before_trichotomy d' with hbefore | rfl | hafter
    · exact hbefore
    · exact absurd hlt (Nat.lt_irrefl _)
    · exact absurd (dayNumber_lt_of_before h' h hafter) (Nat.lt_asymm hlt)
  · exact dayNumber_lt_of_before h h'

/-- Different dates have different numbers. -/
theorem dayNumber_inj {d d' : Date} (h : d.Exists) (h' : d'.Exists) :
    dayNumber d = dayNumber d' ↔ d = d' := by
  constructor
  · intro heq
    rcases d.before_trichotomy d' with hbefore | hsame | hafter
    · exact absurd heq (Nat.ne_of_lt (dayNumber_lt_of_before h h' hbefore))
    · exact hsame
    · exact absurd heq (Nat.ne_of_gt (dayNumber_lt_of_before h' h hafter))
  · exact congrArg dayNumber

/-! ### The date of a day -/

/-- The last year that is tried begins no earlier than the day, if the years go on for long enough. -/
theorem le_daysBeforeYear_lastYearBefore {n : Nat} (steps : Nat) {year : Nat}
    (h : n ≤ daysBeforeYear (year + steps + 1)) :
    n ≤ daysBeforeYear (lastYearBefore n steps year + 1) := by
  induction steps generalizing year with
  | zero => exact h
  | succ steps ih =>
    rw [lastYearBefore]
    split
    · refine ih ?_
      rwa [Nat.add_right_comm year 1 steps]
    · next hnext => exact Nat.le_of_not_lt hnext

theorem lastYearBefore_ge (n steps year : Nat) : year ≤ lastYearBefore n steps year := by
  induction steps generalizing year with
  | zero => exact Nat.le_refl year
  | succ steps ih =>
    rw [lastYearBefore]
    split
    · exact Nat.le_of_succ_le (ih (year + 1))
    · exact Nat.le_refl year

/-- **The year of a day ends no earlier than the day.** -/
theorem le_daysBeforeYear_yearOfDay (n : Nat) : n ≤ daysBeforeYear (yearOfDay n + 1) := by
  refine le_daysBeforeYear_lastYearBefore _ ?_
  -- No year has less than 365 days, so that the year behind the last one that is tried is too late.
  have hsteps : (n - 1) / 366 + 1 + (n / 365 + 1 - ((n - 1) / 366 + 1)) = n / 365 + 1 := by omega
  rw [hsteps]
  show n ≤ 365 * (n / 365 + 1) + (n / 365 + 1) / 4 - (n / 365 + 1) / 100 + (n / 365 + 1) / 400
  omega

/-- **A month and a day of it are found**, if the months go on for long enough. -/
theorem monthOfDay_bounds {year month n m d : Nat} (months : Nat) (hmonth : 0 < month) (hn : 0 < n)
    (hend : daysBeforeMonth year month + n ≤ daysBeforeMonth year (month + months + 1))
    (h : monthOfDay year months month n = (m, d)) :
    month ≤ m ∧ m ≤ month + months ∧ 0 < d ∧ d ≤ daysInMonth year m := by
  have hnext := daysBeforeMonth_succ year hmonth
  induction months generalizing month n with
  | zero =>
    cases h
    rw [Nat.add_zero, hnext] at hend
    exact ⟨Nat.le_refl _, Nat.le_refl _, hn, Nat.le_of_add_le_add_left hend⟩
  | succ months ih =>
    rw [monthOfDay] at h
    split at h
    · -- The day lies behind this month, and the months that are left begin with the next one.
      next hlong =>
      have hend' : daysBeforeMonth year (month + 1) + (n - daysInMonth year month)
          ≤ daysBeforeMonth year (month + 1 + months + 1) := by
        rw [hnext, Nat.add_right_comm month 1 months, Nat.add_assoc month months 1]
        omega
      obtain ⟨hge, hle, hday⟩ := ih (Nat.succ_pos month) (Nat.sub_pos_of_lt hlong) hend' h
        (daysBeforeMonth_succ year (Nat.succ_pos month))
      exact ⟨Nat.le_of_succ_le hge, Nat.add_right_comm month 1 months ▸ hle, hday⟩
    · next hshort =>
      cases h
      exact ⟨Nat.le_refl _, Nat.le_add_right .., hn, Nat.le_of_not_lt hshort⟩

/-- **The date of a day is one that there is.** -/
theorem ofDayNumber_exists {n : Nat} (hn : 0 < n) : (ofDayNumber n).Exists := by
  have hbegin := daysBeforeYear_yearOfDay hn
  have hend := le_daysBeforeYear_yearOfDay n
  have hyear : 0 < yearOfDay n := Nat.lt_of_lt_of_le (Nat.succ_pos _) (lastYearBefore_ge ..)
  have hfirst : daysBeforeMonth (yearOfDay n) 1 = 0 := rfl
  rw [daysBeforeYear_succ hyear] at hend
  have hlast : daysBeforeMonth (yearOfDay n) 1 + (n - daysBeforeYear (yearOfDay n))
      ≤ daysBeforeMonth (yearOfDay n) 13 := by
    rw [hfirst, daysBeforeMonth_end]
    omega
  obtain ⟨hmonth, hmonth', hday⟩ :=
    monthOfDay_bounds 11 Nat.one_pos (Nat.sub_pos_of_lt hbegin) hlast rfl
  exact ⟨hyear, ⟨hmonth, hmonth'⟩, hday⟩

/-- The first of January of a year. -/
theorem newYear_exists {year : Nat} (hyear : 0 < year) : Date.Exists ⟨year, 1, 1⟩ :=
  ⟨hyear, ⟨Nat.one_pos, Nat.le_add_left 1 11⟩, ⟨Nat.one_pos, Nat.le_add_left 1 30⟩⟩

/-- **The days of the years up to one** are those before the next begins. -/
theorem year_ofDayNumber_le_iff {n : Nat} (hn : 0 < n) (year : Nat) :
    (ofDayNumber n).year ≤ year ↔ n < dayNumber ⟨year + 1, 1, 1⟩ := by
  have hdate := ofDayNumber_exists hn
  have hnumber := dayNumber_lt_iff hdate (newYear_exists (Nat.succ_pos year))
  have hmonth := hdate.month.1
  have hday := hdate.day.1
  rw [dayNumber_ofDayNumber hn] at hnumber
  rw [hnumber]
  show _ ↔ (ofDayNumber n).year < year + 1 ∨ (ofDayNumber n).year = year + 1
    ∧ ((ofDayNumber n).month < 1 ∨ (ofDayNumber n).month = 1 ∧ (ofDayNumber n).day < 1)
  omega

end Calendar

/-- A date that passes the check is there, and in the calendar's years. -/
theorem Date.exists_of_check {d : Date} (h : d.check = .ok d) :
    d.Exists ∧ d.year ≤ Calendar.maxYear := by
  unfold check at h
  split at h
  · contradiction
  next hyear =>
  split at h
  · contradiction
  next hmonth =>
  split at h
  · contradiction
  next hday => exact ⟨⟨by omega, by omega, by omega⟩, by omega⟩

end EntityStore
