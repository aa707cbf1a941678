import EntityStore.Access.Repository

/-!
# Writing records

Inserting, updating and deleting records.  Every value travels bound to a place that is named after its column; the
database fills the identity columns.  A record that breaks a rule of its entity is refused before anything runs, and
of several records to be inserted none is if one of them is refused.
-/

namespace EntityStore.Repository

/-- Refuses a record that breaks a rule of its entity. -/
def requireValid (e : Entity) (r : Record) : Action Unit := do
  let errors := e.validate r
  if errors.isEmpty then pure ()
  else
    Action.alter (·.note (.rejected e.name errors.length))
    throw (.invalidEntity e.name errors)

/-- The bindings of columns to their values. -/
def bindingsOf (fields : List (Column × Value)) : List Binding :=
  fields.map fun (c, v) => .ofColumn c.name v

/-- The statement that inserts a record and asks for its key. -/
def insertStatement (e : Entity) (r : Record) : Statement :=
  let fields := (e.fields r).filter fun (c, _) => !c.isIdentity
  let bindings := bindingsOf fields
  let keys := (e.columns.filter Column.isKey).map fun c => "[Inserted].".toList ++ Text.bracket c.name
  let output := if keys.isEmpty then [] else " OUTPUT ".toList ++ Text.joinWith ", ".toList keys
  let sql := "INSERT INTO ".toList ++ e.tableText ++ " (".toList ++
    Text.joinWith ", ".toList (fields.map fun (c, _) => Text.bracket c.name) ++ ")".toList ++ output ++
    " VALUES (".toList ++ Text.joinWith ", ".toList (bindings.map Binding.name) ++ ")".toList
  ⟨if keys.isEmpty then .execute else .query, sql, bindings⟩

/-- Inserts a record.  The result is its key as the database stored it, an empty row if the entity has no key, and
nothing if no record was inserted. -/
def insert (e : Entity) (r : Record) : Action (Option Row) := do
  let statement := insertStatement e r
  match statement.kind with
  | .execute =>
    let count? ← Action.execute statement.sql statement.bindings
    pure (if count?.any (0 < ·) then some ⟨[], []⟩ else none)
  | .query =>
    let rows? ← Action.query statement.sql statement.bindings
    pure (rows?.bind List.head?)

/-- Inserts a record that keeps the rules of its entity. -/
def create (e : Entity) (r : Record) : Action (Option Row) := do
  requireValid e r
  insert e r

/-- Inserts records and counts those that were inserted. -/
def insertAll (e : Entity) : List Record → Action Nat
  | [] => pure 0
  | r :: rest => do
    let key? ← insert e r
    let count ← insertAll e rest
    pure (count + if key?.isSome then 1 else 0)

/-- Inserts records of which all keep the rules of their entity. -/
def createAll (e : Entity) (records : List Record) : Action Nat := do
  records.forM (requireValid e)
  insertAll e records

/-- The key column with the value of a record. -/
def keyField (e : Entity) (r : Record) : Except Error (Column × Value) :=
  match e.columns.findIdx? Column.isKey with
  | none => .error (.validation (.noKey e.name))
  | some i =>
    match e.columns[i]? with
    | none => .error (.validation (.noKey e.name))
    | some c => .ok (c, r[i]?.getD .null)

/-- The named columns with the values of a record.  No column may be unknown, part of the key, filled by the database,
or named twice; the names already used are given. -/
def updatedFields (e : Entity) (r : Record) (used : List Text) : List Text → Except Error (List (Column × Value))
  | [] => .ok []
  | name :: rest =>
    match (e.fields r).find? fun (c, _) => c.name == name with
    | none => .error (.validation (.unknownColumn e.name name))
    | some (c, v) =>
      if c.isKey || c.isIdentity then .error (.validation (.keyColumn e.name c.name))
      else if name ∈ used then .error (.validation (.repeatedColumn name))
      else (updatedFields e r (name :: used) rest).map ((c, v) :: ·)

/-- A column is looked up and checked before those after it. -/
theorem updatedFields_cons (e : Entity) (r : Record) (used : List Text) (name : Text) (rest : List Text) :
    updatedFields e r used (name :: rest) =
      match (e.fields r).find? fun (c, _) => c.name == name with
      | none => .error (.validation (.unknownColumn e.name name))
      | some (c, v) =>
        if c.isKey || c.isIdentity then .error (.validation (.keyColumn e.name c.name))
        else if name ∈ used then .error (.validation (.repeatedColumn name))
        else (updatedFields e r (name :: used) rest).map ((c, v) :: ·) := rfl

/-- A column set or compared to the place that is named after it. -/
def assignment (c : Column) : Text :=
  Text.bracket c.name ++ " = @".toList ++ c.name

/-- The statement that sets columns of the row with the given key. -/
def updateStatement (e : Entity) (fields : List (Column × Value)) (key : Column × Value) : Statement :=
  ⟨.execute,
    "UPDATE ".toList ++ e.tableText ++ " SET ".toList ++
      Text.joinWith ", ".toList (fields.map fun (c, _) => assignment c) ++ " WHERE ".toList ++ assignment key.1,
    bindingsOf (fields ++ [key])⟩

/-- The statement that updates the named columns of a record, or why there is none. -/
def updatePlan (e : Entity) (r : Record) (columns : List Text) : Except Error Statement := do
  let key ← keyField e r
  if columns.isEmpty then throw (.validation (.nothingToUpdate e.name))
  let fields ← updatedFields e r [] columns
  pure (updateStatement e fields key)

/-- Runs a statement and says whether it changed a row. -/
def changesRow (statement : Statement) : Action Bool := do
  let count? ← Action.execute statement.sql statement.bindings
  pure (count?.any (0 < ·))

/-- Updates the named columns of the row with the key of a record. -/
def updateOnly (e : Entity) (r : Record) (columns : List Text) : Action Bool := do
  requireValid e r
  let statement ← Action.ofExcept (updatePlan e r columns)
  changesRow statement

/-- The columns that an update sets: all but those of the key and those that the database fills. -/
def updatableColumns (e : Entity) : List Text :=
  (e.columns.filter fun c => !c.isKey && !c.isIdentity).map Column.name

/-- Updates the row with the key of a record. -/
def update (e : Entity) (r : Record) : Action Bool :=
  updateOnly e r (updatableColumns e)

/-- The statement that deletes the row with the given key. -/
def deleteStatement (e : Entity) (key : Column × Value) : Statement :=
  ⟨.execute, "DELETE FROM ".toList ++ e.tableText ++ " WHERE ".toList ++ assignment key.1, bindingsOf [key]⟩

/-- Deletes the row with the key of a record. -/
def delete (e : Entity) (r : Record) : Action Bool := do
  let key ← Action.ofExcept (keyField e r)
  changesRow (deleteStatement e key)

/-- The statement that deletes the rows selected by a clause. -/
def deleteWhereSql (e : Entity) (clause : Text) : Text :=
  "DELETE FROM ".toList ++ e.tableText ++ " WHERE ".toList ++ clause

/-- Deletes the rows whose column is one of the values, and counts them. -/
def deleteIn (e : Entity) (column : Text) (values : Value) : Action Nat := do
  let clause ← Action.ofExcept (clause e [.condition .initial column .isIn (some values)]).toText
  let count? ← Action.execute (deleteWhereSql e clause) []
  pure (count?.getD 0)

end EntityStore.Repository
