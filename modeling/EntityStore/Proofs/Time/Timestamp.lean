import EntityStore.Proofs.Document
import EntityStore.Proofs.Text.FixedWidth
import EntityStore.Proofs.Time.DateOrder
import EntityStore.Remote.Wire

/-!
# Timestamps sort as time

A time that has a timestamp is first moved to UTC, which leaves the instant as it is and gives a date
that there is and a time of day within its bounds (`toUtc?_eq_some`).  The fields of the timestamp
have fixed widths and stand from the most significant to the least, so that texts are in the order of
the fields.  Only the fraction may be absent, when it is zero; the `+` of the offset then stands in its
place, which comes before the `.` of any fraction (`fraction_lt_iff`).

The text of a date is the beginning of all timestamps of that day, and so stands before these and
behind all earlier ones.
-/

namespace EntityStore

open Text (digitsIn digitsIn_append_lt_iff digitChar_lt_iff toList_paddedNumber)

/-- The midnight in UTC that begins a date. -/
def Date.midnight (d : Date) : DateTime := ⟨d, 0, 0, 0, 0, some 0⟩

namespace DateTime

/-! ### Times in UTC -/

/-- A time in UTC that there is, of a year of the calendar. -/
structure InUtc (t : DateTime) : Prop where
  date : t.date.Exists
  year : t.date.year ≤ Calendar.maxYear
  hour : t.hour < 24
  minute : t.minute < 60
  second : t.second < 60
  microsecond : t.microsecond < 1000000
  offset : t.offset = some 0

/-- The microseconds from midnight to the time of day. -/
def sinceMidnight (t : DateTime) : Nat :=
  (t.hour * 3600 + t.minute * 60 + t.second) * 1000000 + t.microsecond

theorem instant_inUtc {t : DateTime} (h : t.offset = some 0) :
    t.instant = (Calendar.dayNumber t.date : Int) * 86400000000 + t.sinceMidnight := by
  unfold instant localSeconds sinceMidnight secondsPerDay
  rw [h, Option.getD_some, Offset.microseconds_zero]
  omega

theorem instant_midnight (d : Date) :
    d.midnight.instant = (Calendar.dayNumber d : Int) * 86400000000 := by
  rw [instant_inUtc rfl]
  simp [Date.midnight, sinceMidnight]

theorem InUtc.sinceMidnight_lt {t : DateTime} (h : t.InUtc) : t.sinceMidnight < 86400000000 := by
  have hhour := h.hour
  have hminute := h.minute
  have hsecond := h.second
  have hmicrosecond := h.microsecond
  unfold sinceMidnight
  omega

/-- The day decides, and then the time of day. -/
theorem InUtc.instant_lt_iff {t t' : DateTime} (h : t.InUtc) (h' : t'.InUtc) :
    t.instant < t'.instant ↔ Calendar.dayNumber t.date < Calendar.dayNumber t'.date
      ∨ Calendar.dayNumber t.date = Calendar.dayNumber t'.date
        ∧ t.sinceMidnight < t'.sinceMidnight := by
  have hday := h.sinceMidnight_lt
  have hday' := h'.sinceMidnight_lt
  rw [instant_inUtc h.offset, instant_inUtc h'.offset]
  omega

/-- **Outside of the calendar** are the seconds before its first year and those from the year after its
last one on. -/
theorem ofSeconds?_eq_none_iff (seconds : Int) (microsecond : Nat) (offset : Option Offset) :
    ofSeconds? seconds microsecond offset = none
      ↔ seconds < secondsPerDay
        ∨ (Calendar.dayNumber ⟨Calendar.maxYear + 1, 1, 1⟩ : Int) * secondsPerDay ≤ seconds := by
  have hnone : ofSeconds? seconds microsecond offset = none ↔ seconds / secondsPerDay < 1
      ∨ ¬ (Calendar.ofDayNumber (seconds / secondsPerDay).toNat).year ≤ Calendar.maxYear := by
    unfold ofSeconds?
    dsimp only
    rw [Nat.not_le]
    split
    · next h => exact iff_of_true rfl h
    · next h => exact iff_of_false (Option.some_ne_none _) h
  rw [hnone]
  unfold secondsPerDay
  by_cases hday : seconds / 86400 < 1
  · exact iff_of_true (.inl hday) (.inl (by omega))
  · rw [Calendar.year_ofDayNumber_le_iff (by omega)]
    omega

/-- **The UTC form of a time** is the same instant. -/
theorem toUtc?_eq_some {t u : DateTime} (h : t.toUtc? = some u) :
    u.InUtc ∧ u.instant = t.instant := by
  obtain ⟨hseconds, hmicrosecond, hoffset⟩ := localSeconds_ofSeconds h
  have hrest : (t.instant % 1000000).toNat < 1000000 := by omega
  constructor
  · unfold toUtc? ofSeconds? at h
    dsimp only at h
    split at h
    · contradiction
    next hday =>
    have hpositive : 0 < (t.instant / 1000000 / secondsPerDay).toNat := by omega
    have hclock : (t.instant / 1000000 % secondsPerDay).toNat < 86400 := by
      unfold secondsPerDay
      omega
    cases h
    constructor
    case date => exact Calendar.ofDayNumber_exists hpositive
    case year => exact Nat.le_of_not_lt fun hyear => hday (.inr hyear)
    case microsecond => exact hrest
    case offset => rfl
    -- Hours, minutes and seconds come from the seconds of a day.
    all_goals
      dsimp only
      omega
  · rw [instant, hseconds, hmicrosecond, hoffset, Option.getD_some, Offset.microseconds_zero]
    omega

/-- Whether the instant of a time is one of the years of the calendar, in UTC. -/
def InCalendar (t : DateTime) : Prop :=
  (Date.midnight ⟨1, 1, 1⟩).instant ≤ t.instant
    ∧ t.instant < (Date.midnight ⟨Calendar.maxYear + 1, 1, 1⟩).instant

/-- **A time has no UTC form** exactly when its instant is none of the years of the calendar. -/
theorem toUtc?_eq_none_iff (t : DateTime) : t.toUtc? = none ↔ ¬ t.InCalendar := by
  have hfirst : Calendar.dayNumber ⟨1, 1, 1⟩ = 1 := rfl
  rw [toUtc?, ofSeconds?_eq_none_iff, InCalendar, instant_midnight, instant_midnight, hfirst]
  unfold secondsPerDay
  omega

end DateTime

/-! ### Texts -/

/-- **The text of a date** has its fields in two and four digits, which are enough. -/
theorem Date.toList_text {d : Date} (h : d.Exists) (hyear : d.year ≤ Calendar.maxYear) :
    d.year < 10 ^ 4 ∧ d.month < 10 ^ 2 ∧ d.day < 10 ^ 2
      ∧ d.text.toList = digitsIn 10 Nat.digitChar 4 d.year
        ++ '-' :: (digitsIn 10 Nat.digitChar 2 d.month
          ++ '-' :: digitsIn 10 Nat.digitChar 2 d.day) := by
  have hdays : Calendar.daysInMonth d.year d.month ≤ 31 := by
    unfold Calendar.daysInMonth
    split
    · split <;> decide
    · split <;> decide
  have hday := h.day.2
  have hmonth := h.month.2
  unfold Calendar.maxYear at hyear
  have hlt : d.year < 10 ^ 4 ∧ d.month < 10 ^ 2 ∧ d.day < 10 ^ 2 := by omega
  refine ⟨hlt.1, hlt.2.1, hlt.2.2, ?_⟩
  rw [text, String.toList_append, String.toList_append, String.toList_append,
    String.toList_append, toList_paddedNumber (by decide) hlt.1,
    toList_paddedNumber (by decide) hlt.2.1, toList_paddedNumber (by decide) hlt.2.2]
  simp only [List.append_assoc]
  rfl

/-- **Dates are ordered as texts** by their days, and after that by what follows them. -/
theorem Date.text_append_lt_iff {d d' : Date} (h : d.Exists) (hyear : d.year ≤ Calendar.maxYear)
    (h' : d'.Exists) (hyear' : d'.year ≤ Calendar.maxYear) (rest rest' : List Char) :
    d.text.toList ++ rest < d'.text.toList ++ rest'
      ↔ Calendar.dayNumber d < Calendar.dayNumber d'
        ∨ Calendar.dayNumber d = Calendar.dayNumber d' ∧ rest < rest' := by
  obtain ⟨hy, hm, hd, htext⟩ := toList_text h hyear
  obtain ⟨hy', hm', hd', htext'⟩ := toList_text h' hyear'
  have hsame : d = d' ↔ d.year = d'.year ∧ d.month = d'.month ∧ d.day = d'.day := by
    cases d
    cases d'
    exact Date.mk.injEq .. ▸ Iff.rfl
  rw [htext, htext']
  simp only [List.append_assoc, List.cons_append]
  rw [digitsIn_append_lt_iff digitChar_lt_iff hy hy', List.cons_lt_cons_self,
    digitsIn_append_lt_iff digitChar_lt_iff hm hm', List.cons_lt_cons_self,
    digitsIn_append_lt_iff digitChar_lt_iff hd hd', Calendar.dayNumber_lt_iff h h',
    Calendar.dayNumber_inj h h', Before, hsame]
  simp only [and_or_left, or_assoc, and_assoc]

namespace DateTime

/-- What the timestamp of a time in UTC has behind the seconds. -/
def fraction (microsecond : Nat) : List Char :=
  (if microsecond = 0 then [] else '.' :: digitsIn 10 Nat.digitChar 6 microsecond)
    ++ "+00:00".toList

/-- **Fractions are in order**, also where one is left out. -/
theorem fraction_lt_iff {m n : Nat} (hm : m < 10 ^ 6) (hn : n < 10 ^ 6) :
    fraction m < fraction n ↔ m < n := by
  have hsign : '+' < '.' := by decide
  have hless (s t : List Char) : '+' :: s < '.' :: t := List.cons_lt_cons_iff.2 (.inl hsign)
  unfold fraction
  rcases Nat.eq_zero_or_pos m with rfl | hmpos
  · rcases Nat.eq_zero_or_pos n with rfl | hnpos
    · simp
    · rw [if_pos rfl, if_neg hnpos.ne']
      exact iff_of_true (hless ..) hnpos
  · rcases Nat.eq_zero_or_pos n with rfl | hnpos
    · rw [if_pos rfl, if_neg hmpos.ne']
      exact iff_of_false (List.lt_asymm (hless ..)) (Nat.not_lt_zero m)
    · rw [if_neg hmpos.ne', if_neg hnpos.ne', List.cons_append, List.cons_append,
        List.cons_lt_cons_self, digitsIn_append_lt_iff digitChar_lt_iff hm hn]
      simp

/-- **The text of a time in UTC**, field by field. -/
theorem InUtc.toList_text {t : DateTime} (h : t.InUtc) :
    (t.textWith "T").toList = t.date.text.toList ++ 'T' :: (digitsIn 10 Nat.digitChar 2 t.hour
      ++ ':' :: (digitsIn 10 Nat.digitChar 2 t.minute
        ++ ':' :: (digitsIn 10 Nat.digitChar 2 t.second ++ fraction t.microsecond))) := by
  have hhour : t.hour < 10 ^ 2 := h.hour.trans (by decide)
  have hminute : t.minute < 10 ^ 2 := h.minute.trans (by decide)
  have hsecond : t.second < 10 ^ 2 := h.second.trans (by decide)
  have hfraction : (if t.microsecond = 0 then "" else "." ++ paddedNumber 6 t.microsecond).toList
      ++ "+00:00".toList = fraction t.microsecond := by
    unfold fraction
    split
    · rfl
    · rw [String.toList_append, toList_paddedNumber (by decide) h.microsecond]
      rfl
  have hoffset : (t.offset.map offsetText).getD "" = "+00:00" := by
    rw [h.offset]
    decide
  rw [textWith, timeText, hoffset]
  simp only [String.toList_append, toList_paddedNumber (by decide : 0 < 2) hhour,
    toList_paddedNumber (by decide : 0 < 2) hminute, toList_paddedNumber (by decide : 0 < 2) hsecond,
    List.append_assoc, hfraction]
  rfl

/-- **Texts of times in UTC are in the order of the instants.** -/
theorem InUtc.text_lt_iff {t t' : DateTime} (h : t.InUtc) (h' : t'.InUtc) :
    t.textWith "T" < t'.textWith "T" ↔ t.instant < t'.instant := by
  have hhour := h.hour
  have hminute := h.minute
  have hsecond := h.second
  have hmicrosecond := h.microsecond
  have hhour' := h'.hour
  have hminute' := h'.minute
  have hsecond' := h'.second
  have hmicrosecond' := h'.microsecond
  rw [String.lt_iff_toList_lt, h.toList_text, h'.toList_text,
    Date.text_append_lt_iff h.date h.year h'.date h'.year, List.cons_lt_cons_self,
    digitsIn_append_lt_iff digitChar_lt_iff (by omega) (by omega), List.cons_lt_cons_self,
    digitsIn_append_lt_iff digitChar_lt_iff (by omega) (by omega), List.cons_lt_cons_self,
    digitsIn_append_lt_iff digitChar_lt_iff (by omega) (by omega),
    fraction_lt_iff hmicrosecond hmicrosecond', h.instant_lt_iff h']
  unfold sinceMidnight
  omega

/-- **The text of a date** comes before the texts of the times from its midnight on. -/
theorem InUtc.date_text_lt_iff {t : DateTime} (h : t.InUtc) {d : Date} (hd : d.Exists)
    (hyear : d.year ≤ Calendar.maxYear) :
    d.text < t.textWith "T" ↔ d.midnight.instant ≤ t.instant := by
  have hday := h.sinceMidnight_lt
  rw [String.lt_iff_toList_lt, h.toList_text, ← List.append_nil d.text.toList,
    Date.text_append_lt_iff hd hyear h.date h.year, instant_inUtc h.offset, instant_midnight]
  simp only [List.nil_lt_cons, and_true]
  omega

/-! ### Timestamps -/

/-- A timestamp is the text of a time in UTC, of the same instant. -/
theorem timestamp?_eq_some {t : DateTime} {s : String} (hs : t.timestamp? = some s) :
    ∃ u : DateTime, u.InUtc ∧ u.instant = t.instant ∧ u.textWith "T" = s := by
  rw [timestamp?, Option.map_eq_some_iff] at hs
  obtain ⟨u, hu, htext⟩ := hs
  obtain ⟨hutc, hinstant⟩ := toUtc?_eq_some hu
  exact ⟨u, hutc, hinstant, htext⟩

theorem timestamp?_lt_iff {t t' : DateTime} {s s' : String} (hs : t.timestamp? = some s)
    (hs' : t'.timestamp? = some s') : s < s' ↔ t.instant < t'.instant := by
  obtain ⟨u, hu, hinstant, rfl⟩ := timestamp?_eq_some hs
  obtain ⟨u', hu', hinstant', rfl⟩ := timestamp?_eq_some hs'
  rw [hu.text_lt_iff hu', hinstant, hinstant']

/-- Two texts are in the order of two instants. -/
structure SameOrder (s s' : String) (t t' : DateTime) : Prop where
  earlier : s < s' ↔ t.instant < t'.instant
  same : s = s' ↔ t.instant = t'.instant
  later : s' < s ↔ t'.instant < t.instant

theorem sameOrder {t t' : DateTime} {s s' : String} (hs : t.timestamp? = some s)
    (hs' : t'.timestamp? = some s') : SameOrder s s' t t' := by
  have hearlier := timestamp?_lt_iff hs hs'
  have hlater := timestamp?_lt_iff hs' hs
  exact ⟨hearlier, Text.eq_iff_of_lt_iff hearlier hlater, hlater⟩

theorem date_text_lt_timestamp?_iff {d : Date} {t : DateTime} (hd : d.check = .ok d) {s : String}
    (hs : t.timestamp? = some s) : d.text < s ↔ d.midnight.instant ≤ t.instant := by
  obtain ⟨u, hu, hinstant, rfl⟩ := timestamp?_eq_some hs
  obtain ⟨hexists, hyear⟩ := Date.exists_of_check hd
  rw [hu.date_text_lt_iff hexists hyear, hinstant]

theorem timestamp?_eq_none_iff (t : DateTime) : t.timestamp? = none ↔ ¬ t.InCalendar := by
  rw [timestamp?, Option.map_eq_none_iff, toUtc?_eq_none_iff]

end DateTime

/-- **A field that was stamped**, of a new document or of one that replaces another. -/
inductive Document.StampedAt (now : DateTime) : (field : String) → (body : Fields) → Prop
  | created {document body : Fields} {entity id : String}
    (h : stampNew document entity (.str id) now = some body) : StampedAt now createdField body
  | updated {document body : Fields} {entity id : String}
    (h : stampNew document entity (.str id) now = some body) : StampedAt now updatedField body
  | replaced {document body : Fields} {entity id : String}
    (h : stampReplacing document entity (.str id) now = some body) :
    StampedAt now updatedField body

theorem Document.StampedAt.timestamp {now : DateTime} {field : String} {body : Fields}
    (h : StampedAt now field body) :
    ∃ s, now.timestamp? = some s ∧ body.get? field = some (.str s) := by
  cases h with
  | created h =>
    obtain ⟨s, hs, hstored⟩ := stampNew_storedAs h
    exact ⟨s, hs, hstored.created⟩
  | updated h =>
    obtain ⟨s, hs, hstored⟩ := stampNew_storedAs h
    exact ⟨s, hs, hstored.updated⟩
  | replaced h =>
    obtain ⟨s, hs, hstored⟩ := stampReplacing_storedAs h
    exact ⟨s, hs, hstored.updated⟩

theorem Scalar.toWire_datetime {t : DateTime} {x : String}
    (h : (Scalar.datetime t).toWire = .ok (.str x)) : t.timestamp? = some x := by
  rw [toWire] at h
  cases hs : t.timestamp? with
  | none => rw [hs] at h; contradiction
  | some s => rw [hs] at h; cases h; rfl

namespace DateTime

/-- **Timestamps sort as time.**  A time with any offset, or none, has a timestamp exactly when its
instant is in the years 1 to 9999 in UTC; otherwise it is refused as being outside of the calendar.
Timestamps are in the order of the instants, and the text of a date is less than a timestamp exactly
when the time is at or after the midnight of the date in UTC.

So the times and dates that a query is given select by time: as they are sent, they are in this order
to the stamped fields of documents. -/
theorem timestamps_sort :
    (∀ t : DateTime, (t.InCalendar → ∃ s, t.timestamp? = some s)
      ∧ (¬ t.InCalendar → t.timestamp? = none
        ∧ (Scalar.datetime t).toWire = .error .outsideCalendar))
    ∧ (∀ (t t' : DateTime) s s', t.timestamp? = some s → t'.timestamp? = some s' →
      SameOrder s s' t t')
    ∧ (∀ (d : Date) (t : DateTime) s, d.check = .ok d → t.timestamp? = some s →
      (d.text < s ↔ d.midnight.instant ≤ t.instant))
    ∧ ∀ (now : DateTime) field body, Document.StampedAt now field body →
      ∃ s, body.get? field = some (.str s)
        ∧ (∀ (t : DateTime) x, (Scalar.datetime t).toWire = .ok (.str x) → SameOrder s x now t)
        ∧ ∀ (d : Date) x, d.check = .ok d → (Scalar.date d).toWire = .ok (.str x) →
          (x < s ↔ d.midnight.instant ≤ now.instant) := by
  refine ⟨?_, ?_, ?_, ?_⟩
  · intro t
    have hnone := t.timestamp?_eq_none_iff
    refine ⟨fun hin => ?_, fun hout => ?_⟩
    · exact Option.ne_none_iff_exists'.1 fun hs => hnone.1 hs hin
    · have hs := hnone.2 hout
      rw [Scalar.toWire, hs]
      exact ⟨rfl, rfl⟩
  · -- Texts of a fixed form are in the order of the times.
    intro t t' s s' hs hs'
    exact sameOrder hs hs'
  · -- A date is the start of the texts of its day, and so stands before all of them.
    intro d t s hd hs
    exact date_text_lt_timestamp?_iff hd hs
  · -- A stamp is the text of the clock's reading.
    intro now field body hstamped
    obtain ⟨s, hs, hfield⟩ := hstamped.timestamp
    refine ⟨s, hfield, ?_, ?_⟩
    · intro t x hx
      exact sameOrder hs (Scalar.toWire_datetime hx)
    · intro d x hd hx
      have htext : d.text = x := Scalar.str.inj (Except.ok.inj hx)
      rw [← htext]
      exact date_text_lt_timestamp?_iff hd hs

/-- A midnight in UTC that is written with an offset of two hours, and one that an offset of half a second
puts behind it; and half an hour into the calendar with an offset of an hour. -/
theorem timestamps_sort_midnight :
    let t : DateTime := ⟨⟨2025, 1, 1⟩, 2, 0, 0, 0, some 7200⟩
    let t' : DateTime := ⟨⟨2025, 1, 1⟩, 0, 0, 0, 0, some ⟨-500000⟩⟩
    let early : DateTime := ⟨⟨1, 1, 1⟩, 0, 30, 0, 0, some 3600⟩
    let stored : Fields := [("id", .str "o1"),
      ("updatedAt", .str "2025-01-01T00:00:00.500000+00:00"), ("entityName", .str "order")]
    t.instant < t'.instant
      ∧ "2025-01-01T00:00:00+00:00" < "2025-01-01T00:00:00.500000+00:00"
      ∧ (Date.text ⟨2025, 1, 1⟩ < "2025-01-01T00:00:00+00:00"
        ↔ (Date.midnight ⟨2025, 1, 1⟩).instant ≤ t.instant)
      ∧ early.timestamp? = none
      ∧ ∃ s, Entries.get? stored "updatedAt" = some (.str s) ∧ "2025-01-01T00:00:00+00:00" < s := by
  intro t t' early stored
  obtain ⟨hcalendar, hordered, hdate, hstamped⟩ := timestamps_sort
  have hs : t.timestamp? = some "2025-01-01T00:00:00+00:00" := by decide +kernel
  have hs' : t'.timestamp? = some "2025-01-01T00:00:00.500000+00:00" := by decide +kernel
  have hearlier : t.instant < t'.instant := by decide +kernel
  -- An hour east of the first midnight is still the day before in UTC.
  have hout : ¬ early.InCalendar := by
    rintro ⟨hfirst, -⟩
    exact absurd hfirst (by decide +kernel)
  refine ⟨hearlier, ?_, ?_, ?_, ?_⟩
  · exact (hordered t t' _ _ hs hs').earlier.2 hearlier
  · exact hdate ⟨2025, 1, 1⟩ t _ rfl hs
  · exact ((hcalendar early).2 hout).1
  · have hreplaced : Document.stampReplacing [("id", .str "o2")] "order" (.str "o1") t'
        = some stored := by
      rw [Document.stampReplacing, hs']
      rfl
    obtain ⟨s, hfield, htimes, -⟩ := hstamped t' _ _ (.replaced hreplaced)
    refine ⟨s, hfield, (htimes t _ ?_).later.2 hearlier⟩
    rw [Scalar.toWire, hs]

end DateTime

end EntityStore
