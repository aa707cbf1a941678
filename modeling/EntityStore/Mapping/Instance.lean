import EntityStore.Mapping.Basic
import Mathlib.Logic.Function.Basic

/-!
# Instances

An instance of a record type has a value in each of its fields, whether they are mapped or not.  Its record is made of
the values of the mapped fields.  An instance is hydrated from a row by setting the mapped fields one after the other,
each to what the row holds under its column; the other fields keep what they have in a new instance.
-/

namespace EntityStore

/-- What the fields of a record type hold, by their names. -/
abbrev Instance := Text → Value

/-- A mapped field with the meaning of its type. -/
abbrev TypedField := MappedField × FieldType

/-- Mapped fields with the meaning of their types, if every type has one. -/
def typedFields? (meaning : Text → Option FieldType) (mapped : List MappedField) : Option (List TypedField) :=
  mapped.mapM fun f => (meaning f.type).map fun type => (f, type)

/-- The column of a mapped field. -/
def TypedField.column : TypedField → Column
  | (f, type) => f.toColumn type

namespace Instance

/-- The values of the mapped fields in order. -/
def values (fields : List TypedField) (x : Instance) : Record :=
  fields.map fun (f, _) => x f.field

/-- Sets one field to what the row holds under its column, where every label starts with the given mark. -/
def setField (row : Row) (mark : Text) (x : Instance) : TypedField → Except Error Instance
  | (f, type) => (row.decodeOrDefault (mark ++ f.column) type).map fun v => Function.update x f.field v

/-- Hydrates an instance from a row, given a new instance of its type. -/
def hydrate (fields : List TypedField) (new : Instance) (row : Row) (mark : Text) : Except Error Instance :=
  fields.foldlM (setField row mark) new

end Instance

end EntityStore
