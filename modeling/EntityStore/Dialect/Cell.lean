import EntityStore.Error

/-!
# Stored cells

An embedded database stores a cell of a column without type as it was bound: as null, a 64-bit whole number, a double,
a text or bytes.  Values that have no such form of their own are stored as their text.
-/

namespace EntityStore

/-- A stored cell. -/
inductive Cell where
  | null
  | integer (i : Int64)
  | real (d : Double)
  | text (t : Text)
  | blob (bs : List UInt8)

namespace Cell

/-- The form in which a value is bound.  A list has none. -/
def ofValue (v : Value) : Except Error Cell :=
  match v with
  | .null => .ok .null
  | .bool b => .ok (.integer (if b then 1 else 0))
  | .int i => .ok (.integer i)
  | .uint u => .ok (if 0 ≤ u.toInt64 then .integer u.toInt64 else .text (Text.ofNat u.toNat))
  | .double d => .ok (.real d)
  | .string t | .xml t => .ok (.text t)
  | .bytes bs => .ok (.blob bs)
  | .list _ => .error (.backend .boundList)
  | _ => .ok ((v.toText?.map .text).getD .null)

/-- The cell as the database keeps it: it has no form for a double that is not a number. -/
def stored : Cell → Cell
  | .real d => if d.isNaN then .null else .real d
  | cell => cell

/-- The value read from a cell. -/
def toValue : Cell → Value
  | .null => .null
  | .integer i => .int i
  | .real d => .double d
  | .text t => .string t
  | .blob bs => .bytes bs

end Cell

/-- A table of columns without types. -/
structure CellTable where
  columns : Nat
  rows : List (List Cell) := []

namespace CellTable

/-- Adds a row; the cells that it lacks are null.  A row of which some value cannot be bound is not added. -/
def insert (table : CellTable) (values : List Value) : Except Error CellTable :=
  (values.mapM Cell.ofValue).map fun cells =>
    { table with rows := table.rows ++ [(cells.map Cell.stored).rightpad table.columns .null] }

/-- The values of all rows in the order of their insertion. -/
def toValues (table : CellTable) : List (List Value) :=
  table.rows.map fun row => row.map Cell.toValue

end CellTable

end EntityStore
