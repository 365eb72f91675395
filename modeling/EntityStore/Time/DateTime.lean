import EntityStore.Time.Calendar

/-!
# Points in time

A `DateTime` is a date, a time of day to the microsecond and, unless it is naive, an offset from
UTC, to the microsecond as well.  A naive time is read as UTC.  `toUtc?` moves a time to UTC; it
fails exactly when the result would leave the years 1 to 9999.

`Date.check` and `DateTime.check` say of a date or a time what of it does not exist.

`timestamp?` is the text under which times are stored: the UTC time with a `T` between date and
time, the microseconds only when there are any, and `+00:00` at the end.
-/

namespace EntityStore

/-- An offset from UTC, to the microsecond.  A whole number stands for so many seconds. -/
structure Offset where
  microseconds : Int
deriving DecidableEq, Repr

namespace Offset

def ofSeconds (n : Int) : Offset := ⟨n * 1000000⟩

/-- The whole seconds of an offset. -/
def seconds (o : Offset) : Int := o.microseconds / 1000000

instance : Coe Int Offset := ⟨ofSeconds⟩

instance : CoeOut Offset Int := ⟨seconds⟩

instance (n : Nat) : OfNat Offset n := ⟨ofSeconds n⟩

@[simp] theorem microseconds_zero : (0 : Offset).microseconds = 0 := rfl

end Offset

/-- A date, a time of day and an offset from UTC, absent from a naive time. -/
structure DateTime where
  date : Date
  hour : Nat
  minute : Nat
  second : Nat
  microsecond : Nat
  offset : Option Offset
deriving DecidableEq, Repr

namespace DateTime

/-- How many seconds a day has. -/
def secondsPerDay : Int := 86400

/-- The seconds from the midnight that begins day 0 to the written date and time of day, the
offset left aside. -/
def localSeconds (t : DateTime) : Int :=
  (Calendar.dayNumber t.date : Int) * secondsPerDay
    + (t.hour * 3600 + t.minute * 60 + t.second : Nat)

/-- The microseconds from the midnight that begins day 0 in UTC to the point in time. -/
def instant (t : DateTime) : Int :=
  t.localSeconds * 1000000 + t.microsecond - (t.offset.getD 0).microseconds

/-- The date and the time of day that lie so many seconds after the midnight that begins day 0;
`none` outside the years 1 to 9999. -/
def ofSeconds? (seconds : Int) (microsecond : Nat) (offset : Option Offset) :
    Option DateTime :=
  let day := seconds / secondsPerDay
  let rest := (seconds % secondsPerDay).toNat
  let date := Calendar.ofDayNumber day.toNat
  if day < 1 ∨ Calendar.maxYear < date.year then none
  else some ⟨date, rest / 3600, rest % 3600 / 60, rest % 60, microsecond, offset⟩

/-- **The same point in time at offset zero.** -/
def toUtc? (t : DateTime) : Option DateTime :=
  ofSeconds? (t.instant / 1000000) (t.instant % 1000000).toNat (some 0)

/-- The point in time so many nanoseconds after the beginning of the year 1970, to the
microsecond. -/
def ofEpoch? (nanoseconds : Int) : Option DateTime :=
  let epoch : Int := Calendar.dayNumber ⟨1970, 1, 1⟩
  let microseconds := nanoseconds / 1000
  ofSeconds? (epoch * secondsPerDay + microseconds / 1000000) (microseconds % 1000000).toNat
    (some 0)

/-- The time one second later on the same clock. -/
def nextSecond? (t : DateTime) : Option DateTime :=
  ofSeconds? (t.localSeconds + 1) t.microsecond t.offset

/-! ### Dates and times that do not exist -/

end DateTime

/-- What of a date, a time of day or an offset does not exist. -/
inductive CalendarFault where
  | year (n : Nat)
  | month
  | day
  | hour
  | minute
  | second
  | microsecond
  | offset (o : Offset)
deriving DecidableEq, Repr

namespace CalendarFault

/-- A length of time in whole days, which may be negative, and the seconds and microseconds that
remain. -/
def shownDuration (microseconds : Int) : String :=
  let seconds := microseconds / 1000000
  let parts :=
    [("days", seconds / DateTime.secondsPerDay), ("seconds", seconds % DateTime.secondsPerDay),
      ("microseconds", microseconds % 1000000)]
  let parts := parts.filter fun p => p.2 ≠ 0
  "datetime.timedelta("
    ++ (if parts.isEmpty then "0"
      else ", ".intercalate (parts.map fun p => p.1 ++ "=" ++ toString p.2))
    ++ ")"

/-- The wording of a fault. -/
def message : CalendarFault → String
  | .year n => "year " ++ toString n ++ " is out of range"
  | .month => "month must be in 1..12"
  | .day => "day is out of range for month"
  | .hour => "hour must be in 0..23"
  | .minute => "minute must be in 0..59"
  | .second => "second must be in 0..59"
  | .microsecond => "microsecond must be in 0..999999"
  | .offset o =>
    "offset must be a timedelta strictly between -timedelta(hours=24) and timedelta(hours=24), not "
      ++ shownDuration o.microseconds ++ "."

end CalendarFault

/-- A date, unless it does not exist. -/
def Date.check (d : Date) : Except CalendarFault Date :=
  if d.year = 0 ∨ Calendar.maxYear < d.year then .error (.year d.year)
  else if d.month = 0 ∨ 12 < d.month then .error .month
  else if d.day = 0 ∨ Calendar.daysInMonth d.year d.month < d.day then .error .day
  else .ok d

namespace DateTime

/-- An offset, which has to be shorter than a day. -/
def checkOffset : Option Offset → Except CalendarFault Unit
  | some o =>
    if secondsPerDay * 1000000 ≤ o.microseconds.natAbs then .error (.offset o) else .ok ()
  | none => .ok ()

/-- **A point in time, unless it does not exist.** -/
def check (t : DateTime) : Except CalendarFault DateTime := do
  checkOffset t.offset
  let _ ← t.date.check
  if 23 < t.hour then .error .hour
  else if 59 < t.minute then .error .minute
  else if 59 < t.second then .error .second
  else if 999999 < t.microsecond then .error .microsecond
  else return t

/-! ### Text -/

/-- The time of day, with the microseconds if there are any. -/
def timeText (t : DateTime) : String :=
  paddedNumber 2 t.hour ++ ":" ++ paddedNumber 2 t.minute ++ ":" ++ paddedNumber 2 t.second
    ++ (if t.microsecond = 0 then "" else "." ++ paddedNumber 6 t.microsecond)

/-- An offset as hours and minutes, with the seconds and the microseconds if there are any. -/
def offsetText (o : Offset) : String :=
  let m := o.microseconds.natAbs
  let n := m / 1000000
  (if o.microseconds < 0 then "-" else "+") ++ paddedNumber 2 (n / 3600) ++ ":"
    ++ paddedNumber 2 (n % 3600 / 60)
    ++ (if m % 60000000 = 0 then "" else ":" ++ paddedNumber 2 (n % 60))
    ++ (if m % 1000000 = 0 then "" else "." ++ paddedNumber 6 (m % 1000000))

/-- Date, separator, time of day and offset, as they are. -/
def textWith (separator : String) (t : DateTime) : String :=
  t.date.text ++ separator ++ t.timeText ++ (t.offset.map offsetText).getD ""

/-- A point in time as it is displayed, with a space between date and time. -/
def text (t : DateTime) : String := t.textWith " "

/-- **The stored form of a point in time**; `none` when the UTC time leaves the calendar. -/
def timestamp? (t : DateTime) : Option String :=
  t.toUtc?.map (textWith "T")

end DateTime

end EntityStore
