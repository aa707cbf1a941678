import EntityStore.Text.Blank
import EntityStore.Text.Digits
import EntityStore.Time.Unit

/-!
# Time spans

A time span is a whole number of nanoseconds of at most `2 ^ 63 - 1` milliseconds in either direction.  It is
written as `[-][d.]hh:mm:ss[.fffffff]`, in units of a hundred nanoseconds.
-/

namespace EntityStore

/-- The longest time span in nanoseconds. -/
def maxSpanNanos : Nat := 9223372036854775807 * nanosPerMillisecond

/-- A time span. -/
structure TimeSpan where
  nanos : Int
  nanos_le : nanos.natAbs ≤ maxSpanNanos
  deriving DecidableEq

namespace TimeSpan

/-- The time span of the given nanoseconds, if it is not too long. -/
def ofNanos? (nanos : Int) : Option TimeSpan :=
  if h : nanos.natAbs ≤ maxSpanNanos then some ⟨nanos, h⟩ else none

/-- The empty time span. -/
def zero : TimeSpan := ⟨0, by decide⟩

/-- The same time span in the other direction. -/
def negate (s : TimeSpan) : TimeSpan :=
  ⟨-s.nanos, by have := s.nanos_le; omega⟩

/-- The sum of two time spans, if it is not too long. -/
def add? (a b : TimeSpan) : Option TimeSpan :=
  ofNanos? (a.nanos + b.nanos)

/-- The text of a time span: days only if there are any, and a fraction of seven digits only if it is not zero. -/
def toText (s : TimeSpan) : Text :=
  let magnitude := s.nanos.natAbs
  let total := magnitude / nanosPerSecond
  let days := total / 86400
  let ticks := magnitude % nanosPerSecond / 100
  (if s.nanos < 0 then ['-'] else []) ++
    (if 0 < days then Text.ofNat days ++ ['.'] else []) ++
    Text.ofNatPadded 2 (total % 86400 / 3600) ++ ':' :: Text.ofNatPadded 2 (total % 3600 / 60) ++ ':' ::
    Text.ofNatPadded 2 (total % 60) ++
    (if 0 < ticks then '.' :: Text.ofNatPadded 7 ticks else [])

/-- The parts of a text before and after its first point; a text without a point is the first part. -/
def splitAtPoint (t : Text) : Text × Option Text :=
  match Text.splitFirst? ['.'] t with
  | some (before, after) => (before, some after)
  | none => (t, none)

/-- Reads the digits after the point of a second as nanoseconds.  Nine characters count; zeros fill up what is
missing, and the result is a whole number of its own. -/
def readFraction? (fraction : Text) : Option Int :=
  Text.readInt? ((fraction.take 9).rightpad 9 '0')

/-- The time span of a whole number of units. -/
def ofUnits? (count : Int) (nanosPerUnit : Nat) : Option TimeSpan :=
  ofNanos? (count * nanosPerUnit)

/-- Reads a time span without the sign in front. -/
def readMagnitude? (t : Text) : Option TimeSpan :=
  match t.splitOn ':' with
  | [first, minutes, last] => do
    let (days, hours) ← match splitAtPoint first with
      | (days, some hours) => do pure (← Text.readInt? days, ← Text.readInt? hours)
      | (hours, none) => do pure (0, ← Text.readInt? hours)
    let minutes ← Text.readInt? minutes
    let (seconds, nanos) ← match splitAtPoint last with
      | (seconds, some fraction) => do pure (← Text.readInt? seconds, ← readFraction? fraction)
      | (seconds, none) => do pure (← Text.readInt? seconds, 0)
    let span ← ofUnits? days nanosPerDay
    let span ← add? span (← ofUnits? hours nanosPerHour)
    let span ← add? span (← ofUnits? minutes nanosPerMinute)
    let span ← add? span (← ofUnits? seconds nanosPerSecond)
    add? span (← ofUnits? nanos 1)
  | _ => none

/-- Reads a time span. -/
def read? (t : Text) : Option TimeSpan :=
  match t.trim with
  | '-' :: rest => (readMagnitude? rest).map negate
  | rest => readMagnitude? rest

end TimeSpan

end EntityStore
