import EntityStore.Access.Session
import EntityStore.Entity.Basic
import EntityStore.Query.Clause
import EntityStore.Query.Predicate

/-!
# Reading records

Opening the repository of an entity and reading its records: all of them, those that a clause or a predicate selects,
or only their number.  A failed connection leaves nothing to read.
-/

namespace EntityStore.Repository

/-- The statement that counts the columns of a table. -/
def countColumnsSql (schema table : Text) : Text :=
  "SELECT COUNT(*) FROM INFORMATION_SCHEMA.COLUMNS WHERE TABLE_NAME = ".toList ++ Text.quote table ++
    " AND TABLE_SCHEMA = ".toList ++ Text.quote schema

/-- The number of columns that an answer reports. -/
def countedColumns (rows : List Row) : Except Error Nat :=
  match rows.head?.bind fun row => row.cells.head? with
  | none => .error (.backend .noColumnCount)
  | some cell =>
    match ScalarType.int64.decode cell with
    | .ok (.int i) => if 0 ≤ i.toInt then .ok i.toInt.toNat else .error (.backend (.badColumnCount cell))
    | _ => .error (.backend (.badColumnCount cell))

/-- Asks how many columns a table has.  Every failure reaches the caller, those of the connection too. -/
def columnCount (schema table : Text) : Action Nat := do
  let sql := countColumnsSql schema table
  Action.guard sql
  Action.alter (·.announce sql 0)
  let reply ← Action.send ⟨.query, sql, []⟩
  Action.ofExcept (countedColumns reply.toRows)

/-- Compares the number of columns of an entity with that of its table. -/
def checkSchema (e : Entity) : Action Unit := do
  let found ← columnCount e.schema e.table
  if found = e.columns.length then pure ()
  else throw (.schemaMismatch e.schema e.table e.columns.length found)

/-- Opens the repository of an entity. -/
def openFor (e : Entity) : Action Unit := do
  if (← get).settings.checksSchema then checkSchema e
  Action.alter (·.note (.ready e.name e.tableText))

/-- The statement that reads all records. -/
def selectAllSql (e : Entity) : Text :=
  "SELECT ".toList ++ Text.joinWith ", ".toList (e.columns.map fun c => Text.bracket c.name) ++ " FROM ".toList ++
    e.tableText

/-- The statement that reads the records selected by a clause. -/
def selectWhereSql (e : Entity) (clause : Text) : Text :=
  selectAllSql e ++ " WHERE ".toList ++ clause

/-- Runs a statement and reads a record from every row. -/
def readRecords (e : Entity) (sql : Text) : Action (List Record) := do
  match ← Action.query sql [] with
  | none => pure []
  | some rows => Action.ofExcept (rows.mapM fun row => e.readRecord row [])

/-- The number of records; zero if the connection fails. -/
def count (e : Entity) : Action Int := do
  match ← Action.query ("SELECT COUNT(*) FROM ".toList ++ e.tableText) [] with
  | none => pure 0
  | some rows =>
    match rows.head?.bind fun row => row.cells.head? with
    | none => pure 0
    | some cell =>
      match ScalarType.int64.decode cell with
      | .ok v => pure (v.integer?.getD 0)
      | .error fault => throw (.decode "COUNT(*)".toList fault)

/-- All records. -/
def all (e : Entity) : Action (List Record) :=
  readRecords e (selectAllSql e)

/-- The records selected by the text of a clause. -/
def whereText (e : Entity) (clause : Text) : Action (List Record) :=
  readRecords e (selectWhereSql e clause)

/-- A clause over the columns of an entity, built in steps. -/
def clause (e : Entity) (steps : List Step) : Clause :=
  ({ columns := e.columns } : Clause).run steps

/-- The statement that reads the records selected by a clause. -/
def queryText (e : Entity) (w : Clause) : Except Error Text :=
  w.toText.map (selectWhereSql e)

/-- The records selected by a clause. -/
def whereClause (e : Entity) (w : Clause) : Action (List Record) := do
  readRecords e (← Action.ofExcept (queryText e w))

/-- The records of which a predicate holds. -/
def filter (e : Entity) (predicate : Param → Expr) : Action (List Record) := do
  let clause ← Action.ofExcept ((predicate ⟨0, e.name, e.columns⟩).predicateText [])
  whereText e clause

/-- The records whose column compares with the value as asked. -/
def whereColumn (e : Entity) (column : Text) (comparison : Comparison) (v : Value) : Action (List Record) :=
  whereClause e (clause e [.condition .initial column comparison (some v)])

/-- The steps of a clause that asks for equality on every pair. -/
def equalitySteps : List (Text × Value) → List Step
  | [] => []
  | (column, v) :: rest =>
    .condition .initial column .equals (some v) ::
      rest.map fun (column, v) => .condition .and column .equals (some v)

/-- The records equal on every pair; without a pair there are none. -/
def whereEqual (e : Entity) (criteria : List (Text × Value)) : Action (List Record) :=
  match criteria with
  | [] => pure []
  | _ => do
    let clause ← Action.ofExcept (clause e (equalitySteps criteria)).toText
    whereText e clause

end EntityStore.Repository
