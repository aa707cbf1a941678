import EntityStore.Time.Calendar
import EntityStore.Text.Digits

/-!
# The text of dates and times

A date and a time are joined by the letter T, the fraction of a second follows a point with three, six or nine
digits, and an offset is written in hours and minutes after its sign.
-/

namespace EntityStore

/-- A year in four digits, with a sign if it is negative or needs more digits. -/
def yearText (year : Int) : Text :=
  if 0 ≤ year ∧ year ≤ 9999 then Text.ofNatPadded 4 year.toNat
  else (if year < 0 then '-' else '+') :: Text.ofNatPadded 4 year.natAbs

/-- The text of a date. -/
def Date.toText (d : Date) : Text :=
  yearText d.year ++ '-' :: Text.ofNatPadded 2 d.month ++ '-' :: Text.ofNatPadded 2 d.day

/-- A fraction of a second: nothing for a whole second, otherwise the shortest of three, six and nine digits that
is exact. -/
def fractionText (nanos : Nat) : Text :=
  if nanos = 0 then []
  else if nanos % 1000000 = 0 then '.' :: Text.ofNatPadded 3 (nanos / 1000000)
  else if nanos % 1000 = 0 then '.' :: Text.ofNatPadded 6 (nanos / 1000)
  else '.' :: Text.ofNatPadded 9 nanos

/-- The text of a time; a leap second counts as the sixtieth. -/
def TimeOfDay.toText (t : TimeOfDay) : Text :=
  Text.ofNatPadded 2 t.hour ++ ':' :: Text.ofNatPadded 2 t.minute ++ ':' ::
    Text.ofNatPadded 2 (t.second + t.nanos / nanosPerSecond) ++ fractionText (t.nanos % nanosPerSecond)

/-- The text of a date and time. -/
def DateTime.toText (t : DateTime) : Text :=
  t.date.toText ++ 'T' :: t.time.toText

/-- An offset in hours and minutes, seconds rounded to the nearest minute and half a minute away from zero. -/
def offsetText (offset : Int) : Text :=
  let minutes := (offset.natAbs + 30) / 60
  (if offset < 0 then '-' else '+') :: Text.ofNatPadded 2 (minutes / 60) ++ ':' :: Text.ofNatPadded 2 (minutes % 60)

/-- The text of a local time with its offset. -/
def OffsetDateTime.toText (t : OffsetDateTime) : Text :=
  t.localTime.toText ++ offsetText t.offset

end EntityStore
