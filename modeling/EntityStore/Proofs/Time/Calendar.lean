import EntityStore.Time.DateTime

/-!
# Days, dates and the passing of time

The date that is found for the number of a day has that number (`dayNumber_ofDayNumber`): the year is
one that begins before the day, and the months are gone through one after the other, so that days are
neither lost nor gained.  A time that is found for a number of seconds therefore lies that many
seconds after the midnight that begins day 0, and the time one second later does so
(`instant_nextSecond`).
-/

namespace EntityStore

namespace Calendar

/-! ### The year of a day -/

/-- The years that are tried begin before the day, if the first one does. -/
theorem daysBeforeYear_lastYearBefore {n : Nat} (steps : Nat) {year : Nat}
    (h : daysBeforeYear year < n) : daysBeforeYear (lastYearBefore n steps year) < n := by
  induction steps generalizing year with
  | zero => exact h
  | succ steps ih =>
    rw [lastYearBefore]
    split
    · next hnext => exact ih hnext
    · exact h

/-- **The year of a day begins before the day.** -/
theorem daysBeforeYear_yearOfDay {n : Nat} (hn : 0 < n) : daysBeforeYear (yearOfDay n) < n := by
  refine daysBeforeYear_lastYearBefore _ ?_
  -- No year has more than 366 days.
  have hearly : (n - 1) / 366 * 366 ≤ n - 1 := Nat.div_mul_le_self ..
  show 365 * ((n - 1) / 366 + 1 - 1) + ((n - 1) / 366 + 1 - 1) / 4 - ((n - 1) / 366 + 1 - 1) / 100
    + ((n - 1) / 366 + 1 - 1) / 400 < n
  omega

/-! ### The month of a day -/

theorem daysBeforeMonth_succ (year : Nat) {month : Nat} (hmonth : 0 < month) :
    daysBeforeMonth year (month + 1)
      = daysBeforeMonth year month + daysInMonth year month := by
  obtain ⟨m, rfl⟩ : ∃ m, month = m + 1 := ⟨month - 1, by omega⟩
  show (((List.range (m + 1)).map fun i => daysInMonth year (i + 1)).foldr (· + ·) 0)
    = (((List.range m).map fun i => daysInMonth year (i + 1)).foldr (· + ·) 0)
      + daysInMonth year (m + 1)
  rw [← List.sum_eq_foldr, ← List.sum_eq_foldr, List.range_succ, List.map_append,
    List.sum_append_nat, List.map_singleton, List.sum_singleton]

/-- **Going through the months loses no day.** -/
theorem daysBeforeMonth_monthOfDay (year months : Nat) {month : Nat} (hmonth : 0 < month)
    (n : Nat) :
    daysBeforeMonth year (monthOfDay year months month n).1 + (monthOfDay year months month n).2
      = daysBeforeMonth year month + n := by
  induction months generalizing month n with
  | zero => rfl
  | succ months ih =>
    rw [monthOfDay]
    split
    · next hlong =>
      rw [ih (Nat.succ_pos month), daysBeforeMonth_succ year hmonth]
      omega
    · rfl

/-- **The date of a day has the number of the day.** -/
theorem dayNumber_ofDayNumber {n : Nat} (hn : 0 < n) : dayNumber (ofDayNumber n) = n := by
  have hyear : daysBeforeYear (yearOfDay n) < n := daysBeforeYear_yearOfDay hn
  have hmonth := daysBeforeMonth_monthOfDay (yearOfDay n) 11 Nat.one_pos
    (n - daysBeforeYear (yearOfDay n))
  have hfirst : daysBeforeMonth (yearOfDay n) 1 = 0 := rfl
  show daysBeforeYear (yearOfDay n)
    + daysBeforeMonth (yearOfDay n)
      (monthOfDay (yearOfDay n) 11 1 (n - daysBeforeYear (yearOfDay n))).1
    + (monthOfDay (yearOfDay n) 11 1 (n - daysBeforeYear (yearOfDay n))).2 = n
  omega

end Calendar

namespace DateTime

/-! ### Points in time -/

/-- **A time found for a number of seconds** lies that many seconds after the beginning. -/
theorem localSeconds_ofSeconds {seconds : Int} {microsecond : Nat} {offset : Option Offset}
    {t : DateTime} (h : ofSeconds? seconds microsecond offset = some t) :
    t.localSeconds = seconds ∧ t.microsecond = microsecond ∧ t.offset = offset := by
  unfold ofSeconds? at h
  dsimp only at h
  split at h
  · cases h
  · next hday =>
    have hpositive : 0 < (seconds / secondsPerDay).toNat := by omega
    cases h
    refine ⟨?_, rfl, rfl⟩
    unfold localSeconds
    dsimp only
    rw [Calendar.dayNumber_ofDayNumber hpositive]
    unfold secondsPerDay at *
    omega

/-- **One second later on the same clock.** -/
theorem instant_nextSecond {t t' : DateTime} (h : t.nextSecond? = some t') :
    t'.instant = t.instant + 1000000 := by
  obtain ⟨hseconds, hmicrosecond, hoffset⟩ := localSeconds_ofSeconds h
  unfold instant
  rw [hseconds, hmicrosecond, hoffset]
  omega

end DateTime

end EntityStore
