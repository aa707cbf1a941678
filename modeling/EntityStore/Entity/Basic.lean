import EntityStore.Entity.Column
import EntityStore.Entity.Row
import EntityStore.Text.Bracketed

/-!
# Entities

An entity describes the records of one table: its name, where the table lies, and its columns.  A record is the list
of its values in the order of the columns.  Records are read from rows, column by column, and checked against the
rules of the columns before they are written.

Reading and checking are those of a declared mapping, which go by the columns alone: reading fails only where a cell
does not decode, and checking finds only what a rule of a column finds.  Entities that read or check their records in
a way of their own are not described here.
-/

namespace EntityStore

/-- An entity.  It is known by its description: two entities of the same name, table and columns are one. -/
structure Entity where
  name : Text
  schema : Text
  table : Text
  columns : List Column
  deriving DecidableEq

/-- The values of one record, in the order of the columns. -/
abbrev Record := List Value

namespace Entity

/-- The table of an entity as it stands in a statement. -/
def tableText (e : Entity) : Text :=
  Text.bracketTable e.schema e.table

/-- The first column of the given name. -/
def column? (e : Entity) (name : Text) : Option Column :=
  findColumn? e.columns name

/-- The first key column. -/
def key? (e : Entity) : Option Column :=
  e.columns.find? Column.isKey

/-- The record of which nothing is known. -/
def defaultRecord (e : Entity) : Record :=
  e.columns.map fun c => c.type.default

/-- The columns of an entity with the values of a record. -/
def fields (e : Entity) (r : Record) : List (Column × Value) :=
  e.columns.zip r

/-- If every column has a value, selecting fields by their columns selects the columns. -/
theorem map_fst_filter_fields {e : Entity} {r : Record} (h : r.length = e.columns.length) (p : Column → Bool) :
    ((e.fields r).filter fun (c, _) => p c).map Prod.fst = e.columns.filter p := by
  have hcolumns : (e.fields r).map Prod.fst = e.columns := List.map_fst_zip (Nat.le_of_eq h.symm)
  have hfilter := List.filter_map (f := Prod.fst) (p := p) (l := e.fields r)
  rw [hcolumns] at hfilter
  exact hfilter.symm

/-- Reads a record from a row in which every label starts with the given mark, each value from the cell of its column.
It fails with the fault of the first cell that does not decode, and with no other error. -/
def readRecord (e : Entity) (row : Row) (mark : Text) : Except Error Record :=
  e.columns.mapM fun c => row.decodeOrDefault (mark ++ c.name) c.type

/-- What the rules of one column find wrong with a value. -/
def checkField (errors : FieldErrors) (field : Column × Value) : FieldErrors :=
  let (c, v) := field
  let errors := if c.isRequired then errors.addMissing c.name v else errors
  match c.maxLength? with
  | some limit => errors.addTooLong c.name v limit
  | none => errors

/-- What the rules of an entity find wrong with a record, column by column.  There are no rules beside those of the
columns. -/
def validate (e : Entity) (r : Record) : FieldErrors :=
  (e.fields r).foldl checkField []

end Entity

end EntityStore
