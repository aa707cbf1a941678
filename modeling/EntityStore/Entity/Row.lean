import EntityStore.Error

/-!
# Rows

A row of a result: the labels of its columns and its cells in the same order.  Where a label occurs twice, the first
column with it counts.
-/

namespace EntityStore

/-- A row. -/
structure Row where
  columns : List Text
  cells : List Value

namespace Row

/-- The row with the given labelled cells. -/
def ofPairs (pairs : List (Text × Value)) : Row :=
  ⟨pairs.map Prod.fst, pairs.map Prod.snd⟩

/-- The cell under a label; there is none if the row is shorter than its labels. -/
def get? (row : Row) (column : Text) : Option Value :=
  (row.columns.idxOf? column).bind fun i => row.cells[i]?

/-- The cell under a label, decoded. -/
def decode (row : Row) (column : Text) (type : FieldType) : Except Error Value :=
  match row.get? column with
  | none => .error (.decode column .missingColumn)
  | some v => (type.decode v).mapError (.decode column)

/-- The cell under a label, decoded; where it is missing or null, the default of its type. -/
def decodeOrDefault (row : Row) (column : Text) (type : FieldType) : Except Error Value :=
  match row.get? column with
  | none | some .null => .ok type.default
  | some v => (type.decode v).mapError (.decode column)

end Row

end EntityStore
