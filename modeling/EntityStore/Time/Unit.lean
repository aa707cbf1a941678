/-!
# Units of time

Time is counted in nanoseconds; these are the lengths of the greater units.
-/

namespace EntityStore

/-- The nanoseconds of a second. -/
def nanosPerSecond : Nat := 1000000000

/-- The nanoseconds of a minute. -/
def nanosPerMinute : Nat := 60 * nanosPerSecond

/-- The nanoseconds of an hour. -/
def nanosPerHour : Nat := 60 * nanosPerMinute

/-- The nanoseconds of a day. -/
def nanosPerDay : Nat := 24 * nanosPerHour

/-- The nanoseconds of a millisecond. -/
def nanosPerMillisecond : Nat := 1000000

end EntityStore
