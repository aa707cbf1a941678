import EntityStore.Value.Basic

/-!
# Values of other data

Most data are values as they stand.  The others are converted: a single to the double that is the same number, a date
to its midnight, an instant of universal time to one with the offset zero, data that may be missing to null where they
are, and a sequence to the list of its items.
-/

namespace EntityStore.Value

variable {α : Type}

/-- The value of a single, given by its bits. -/
def ofSingle (bits : UInt32) : Value :=
  .double (.ofSingle bits)

/-- The value of a date, which is its midnight. -/
def ofDate (d : Date) : Value :=
  .dateTime ⟨d, .midnight⟩

/-- The value of an instant of universal time. -/
def ofUtc (t : DateTime) : Value :=
  .offsetDateTime (.utc t)

/-- The value of data that may be missing; missing data are null. -/
def ofOption (toValue : α → Value) : Option α → Value
  | some a => toValue a
  | none => .null

/-- The value of a sequence, in its order. -/
def ofItems (toValue : α → Value) (items : List α) : Value :=
  .list (items.map toValue)

end EntityStore.Value
