import EntityStore.Value.ScalarType

/-!
# Columns

What is known of a column of an entity: its name and type, its part in the key, whether the database fills it, how it
is declared, and the rules on its values.
-/

namespace EntityStore

/-- A column. -/
structure Column where
  name : Text
  type : FieldType
  /-- Part of the primary key. -/
  isKey : Bool := false
  /-- Filled by the database, and left out when a row is inserted. -/
  isIdentity : Bool := false
  /-- The type of the column as declared in the database. -/
  declaredType : Text := type.scalar.columnType
  /-- A value must be present. -/
  isRequired : Bool := false
  /-- The greatest number of characters. -/
  maxLength? : Option Nat := none
  deriving DecidableEq

/-- Whether the column has to be cast to text before it can be compared. -/
def Column.needsTextCast (c : Column) : Bool :=
  c.type.scalar.needsTextCast

/-- The first column of the given name. -/
def findColumn? (columns : List Column) (name : Text) : Option Column :=
  columns.find? fun c => c.name == name

end EntityStore
