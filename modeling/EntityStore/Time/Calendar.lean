/-!
# The proleptic Gregorian calendar

Days are numbered from 1, the first of January of the year 1; `dayNumber` numbers a date and
`ofDayNumber` gives the date of a number.  The year of a day is found by counting up from a year
that cannot be too late, as no year has more than 366 days.
-/

namespace EntityStore

/-- A day of the calendar. -/
structure Date where
  year : Nat
  month : Nat
  day : Nat
deriving DecidableEq, Repr

namespace Calendar

/-- Whether a year has 366 days. -/
def isLeap (year : Nat) : Bool :=
  year % 4 = 0 && (year % 100 ≠ 0 || year % 400 = 0)

/-- How many days a month has. -/
def daysInMonth (year month : Nat) : Nat :=
  if month = 2 then (if isLeap year then 29 else 28)
  else if month = 4 ∨ month = 6 ∨ month = 9 ∨ month = 11 then 30
  else 31

/-- How many days the months before this one have. -/
def daysBeforeMonth (year month : Nat) : Nat :=
  ((List.range (month - 1)).map fun m => daysInMonth year (m + 1)).foldr (· + ·) 0

/-- How many days the years before this one have, counted from the year 1. -/
def daysBeforeYear (year : Nat) : Nat :=
  let y := year - 1
  365 * y + y / 4 - y / 100 + y / 400

/-- The number of a day; the first of January of the year 1 has the number 1. -/
def dayNumber (d : Date) : Nat :=
  daysBeforeYear d.year + daysBeforeMonth d.year d.month + d.day

/-- The last of the years from `year` on, at most `steps` further, that begins before day `n`. -/
def lastYearBefore (n : Nat) : (steps year : Nat) → Nat
  | 0, year => year
  | steps + 1, year =>
    if daysBeforeYear (year + 1) < n then lastYearBefore n steps (year + 1) else year

/-- The year of a day. -/
def yearOfDay (n : Nat) : Nat :=
  let early := (n - 1) / 366 + 1
  lastYearBefore n (n / 365 + 1 - early) early

/-- The month and the day of the month of the `n`-th day of a year, counted from `month` on. -/
def monthOfDay (year : Nat) : (months month n : Nat) → Nat × Nat
  | 0, month, n => (month, n)
  | months + 1, month, n =>
    if daysInMonth year month < n then
      monthOfDay year months (month + 1) (n - daysInMonth year month)
    else (month, n)

/-- **The date of a day number.** -/
def ofDayNumber (n : Nat) : Date :=
  let year := yearOfDay n
  let (month, day) := monthOfDay year 11 1 (n - daysBeforeYear year)
  ⟨year, month, day⟩

/-- The last year of the calendar. -/
def maxYear : Nat := 9999

end Calendar

/-- Writes a number with at least `width` digits. -/
def paddedNumber (width n : Nat) : String :=
  let digits := toString n
  String.ofList (List.replicate (width - digits.length) '0') ++ digits

/-- A date as year, month and day: `2024-01-02`. -/
def Date.text (d : Date) : String :=
  paddedNumber 4 d.year ++ "-" ++ paddedNumber 2 d.month ++ "-" ++ paddedNumber 2 d.day

end EntityStore
