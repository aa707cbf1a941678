import EntityStore.Time.Unit

/-!
# Calendar dates

Dates of the Gregorian calendar, extended to all years from -262143 to 262142, and times of day.  A time may lie in
a leap second, which is written as the sixtieth second of its minute: its nanoseconds count on beyond a thousand
million.
-/

namespace EntityStore

/-- Whether a year has a twenty-ninth of February. -/
def isLeapYear (year : Int) : Bool :=
  year % 4 == 0 && (year % 100 != 0 || year % 400 == 0)

/-- The number of days of a month, zero if there is no such month. -/
def daysInMonth (year : Int) (month : Nat) : Nat :=
  match month with
  | 1 | 3 | 5 | 7 | 8 | 10 | 12 => 31
  | 4 | 6 | 9 | 11 => 30
  | 2 => if isLeapYear year then 29 else 28
  | _ => 0

/-- The first year of the calendar. -/
def firstYear : Int := -262143

/-- The last year of the calendar. -/
def lastYear : Int := 262142

/-- A date of the calendar. -/
structure Date where
  year : Int
  month : Nat
  day : Nat
  year_ge : firstYear ≤ year
  year_le : year ≤ lastYear
  day_pos : 1 ≤ day
  day_le : day ≤ daysInMonth year month
  deriving DecidableEq

/-- The date with the given parts, if there is one. -/
def Date.ofParts? (year : Int) (month day : Nat) : Option Date :=
  if h : firstYear ≤ year ∧ year ≤ lastYear ∧ 1 ≤ day ∧ day ≤ daysInMonth year month then
    some ⟨year, month, day, h.1, h.2.1, h.2.2.1, h.2.2.2⟩
  else none

/-- A time of day.  A count of a thousand million nanoseconds or more lies in a leap second. -/
structure TimeOfDay where
  hour : Nat
  minute : Nat
  second : Nat
  nanos : Nat
  hour_lt : hour < 24
  minute_lt : minute < 60
  second_lt : second < 60
  nanos_lt : nanos < 2 * nanosPerSecond
  leap_second : nanosPerSecond ≤ nanos → second = 59
  deriving DecidableEq

/-- The time with the given parts, if there is one. -/
def TimeOfDay.ofParts? (hour minute second nanos : Nat) : Option TimeOfDay :=
  if h : hour < 24 ∧ minute < 60 ∧ second < 60 ∧ nanos < 2 * nanosPerSecond ∧
      (nanosPerSecond ≤ nanos → second = 59) then
    some ⟨hour, minute, second, nanos, h.1, h.2.1, h.2.2.1, h.2.2.2.1, h.2.2.2.2⟩
  else none

/-- The first instant of a day. -/
def TimeOfDay.midnight : TimeOfDay :=
  ⟨0, 0, 0, 0, by decide, by decide, by decide, by decide, by decide⟩

/-- The whole seconds since midnight. -/
def TimeOfDay.secondOfDay (t : TimeOfDay) : Nat :=
  t.hour * 3600 + t.minute * 60 + t.second

/-- A date and a time of day. -/
structure DateTime where
  date : Date
  time : TimeOfDay
  deriving DecidableEq

/-- The beginning of the year 1970. -/
def DateTime.epoch : DateTime :=
  ⟨⟨1970, 1, 1, by decide, by decide, by decide, by decide⟩, .midnight⟩

/-- Whether taking a number of seconds away leads to an instant within the calendar.  Fewer than a day is taken,
so that only the first and the last day of the calendar have instants near enough to its ends. -/
def DateTime.staysWithin (t : DateTime) (seconds : Int) : Bool :=
  let shifted : Int := t.time.secondOfDay - seconds
  let isFirst := t.date.year == firstYear && t.date.month == 1 && t.date.day == 1
  let isLast := t.date.year == lastYear && t.date.month == 12 && t.date.day == 31
  !(isFirst && decide (shifted < 0)) && !(isLast && decide (86400 ≤ shifted))

/-- A local date and time with its distance in seconds from universal time, positive to the east.  The distance is
less than a day, and the universal time lies within the calendar. -/
structure OffsetDateTime where
  localTime : DateTime
  offset : Int
  offset_lt : offset.natAbs < 86400
  within : localTime.staysWithin offset = true
  deriving DecidableEq

/-- The local time with the given offset, if there is one. -/
def OffsetDateTime.ofParts? (localTime : DateTime) (offset : Int) : Option OffsetDateTime :=
  if h : offset.natAbs < 86400 ∧ localTime.staysWithin offset = true then
    some ⟨localTime, offset, h.1, h.2⟩
  else none

theorem TimeOfDay.secondOfDay_lt (t : TimeOfDay) : t.secondOfDay < 86400 := by
  have hhour := t.hour_lt
  have hminute := t.minute_lt
  have hsecond := t.second_lt
  unfold secondOfDay
  omega

/-- Universal time itself always lies within the calendar. -/
theorem DateTime.staysWithin_zero (t : DateTime) : t.staysWithin 0 = true := by
  have := t.time.secondOfDay_lt
  simp only [staysWithin, Bool.and_eq_true, Bool.not_eq_true', Bool.and_eq_false_iff, decide_eq_false_iff_not]
  exact ⟨.inr (by omega), .inr (by omega)⟩

/-- A date and time that is in universal time already. -/
def OffsetDateTime.utc (t : DateTime) : OffsetDateTime :=
  ⟨t, 0, by decide, t.staysWithin_zero⟩

/-- The beginning of the year 1970 in universal time. -/
def OffsetDateTime.epoch : OffsetDateTime :=
  ⟨.epoch, 0, by decide, by decide⟩

end EntityStore
