import EntityStore.Access.Join
import EntityStore.Access.Writing
import EntityStore.Proofs.Outcome

/-!
# What a repository is asked to do

All that a repository can be asked to do has one form (`Operation.run_eq`): records are checked, statements are
written or the operation is refused, the statements run one after another, and the result is read from their answers.
Only inserting several records takes more than one statement.
-/

namespace EntityStore

/-- A join of one more entity. -/
structure Joining where
  kind : JoinKind
  entity : Entity
  on : JoinScope → Expr

/-- What the repository of an entity is asked to do, with the type of the result. -/
inductive Operation : Type → Type where
  | count : Operation Int
  | all : Operation (List Record)
  | whereSteps (steps : List Step) : Operation (List Record)
  | whereText (clause : Text) : Operation (List Record)
  | filter (predicate : Param → Expr) : Operation (List Record)
  | whereColumn (column : Text) (comparison : Comparison) (v : Value) : Operation (List Record)
  | whereEqual (criteria : List (Text × Value)) : Operation (List Record)
  | create (r : Record) : Operation (Option Row)
  | createAll (records : List Record) : Operation Nat
  | updateOnly (r : Record) (columns : List Text) : Operation Bool
  | update (r : Record) : Operation Bool
  | delete (r : Record) : Operation Bool
  | deleteIn (column : Text) (values : Value) : Operation Nat
  /-- A chain of joins that starts with the entity. -/
  | join (joinings : List Joining) : Operation (List JoinedRow)

/-- The chain that joins entities one after another. -/
def JoinChain.ofJoinings (root : Entity) (joinings : List Joining) : JoinChain :=
  joinings.foldl (fun chain joining => chain.join joining.kind joining.entity joining.on) { root }

namespace Operation

variable {α : Type}

/-- Carries out an operation. -/
def run (e : Entity) : Operation α → Action α
  | count => Repository.count e
  | all => Repository.all e
  | whereSteps steps => Repository.whereClause e (Repository.clause e steps)
  | whereText clause => Repository.whereText e clause
  | filter predicate => Repository.filter e predicate
  | whereColumn column comparison v => Repository.whereColumn e column comparison v
  | whereEqual criteria => Repository.whereEqual e criteria
  | create r => Repository.create e r
  | createAll records => Repository.createAll e records
  | updateOnly r columns => Repository.updateOnly e r columns
  | update r => Repository.update e r
  | delete r => Repository.delete e r
  | deleteIn column values => Repository.deleteIn e column values
  | join joinings => (JoinChain.ofJoinings e joinings).read

/-! ### The parts of an operation -/

/-- The records that have to keep the rules of their entity. -/
def records : Operation α → List Record
  | create r | updateOnly r _ | update r => [r]
  | createAll records => records
  | _ => []

/-- The statement of a query. -/
def queryOf (sql : Text) : Statement :=
  { kind := .query, sql }

/-- The statements of an operation, or why there are none. -/
def statements (e : Entity) : Operation α → Except Error (List Statement)
  | count => .ok [queryOf ("SELECT COUNT(*) FROM ".toList ++ e.tableText)]
  | all => .ok [queryOf (Repository.selectAllSql e)]
  | whereSteps steps => (Repository.queryText e (Repository.clause e steps)).map fun sql => [queryOf sql]
  | whereText clause => .ok [queryOf (Repository.selectWhereSql e clause)]
  | filter predicate =>
    ((predicate ⟨0, e.name, e.columns⟩).predicateText []).map fun clause =>
      [queryOf (Repository.selectWhereSql e clause)]
  | whereColumn column comparison v =>
    (Repository.queryText e (Repository.clause e [.condition .initial column comparison (some v)])).map fun sql =>
      [queryOf sql]
  | whereEqual criteria =>
    if criteria.isEmpty then .ok []
    else (Repository.queryText e (Repository.clause e (Repository.equalitySteps criteria))).map fun sql =>
      [queryOf sql]
  | create r => .ok [Repository.insertStatement e r]
  | createAll records => .ok (records.map (Repository.insertStatement e))
  | updateOnly r columns => (Repository.updatePlan e r columns).map fun statement => [statement]
  | update r => (Repository.updatePlan e r (Repository.updatableColumns e)).map fun statement => [statement]
  | delete r => (Repository.keyField e r).map fun key => [Repository.deleteStatement e key]
  | deleteIn column values =>
    (Repository.clause e [.condition .initial column .isIn (some values)]).toText.map fun clause =>
      [{ kind := .execute, sql := Repository.deleteWhereSql e clause }]
  | join joinings => (JoinChain.ofJoinings e joinings).sql.map fun sql => [queryOf sql]

/-- The greatest number of statements that an operation takes: one for each record of several, otherwise one. -/
def limit : Operation α → Nat
  | createAll records => records.length
  | _ => 1

/-- The rows of an answer; none without an answer. -/
def rowsOf (reply? : Option Reply) : List Row :=
  (reply?.map Reply.toRows).getD []

/-- The number of changed rows in an answer; zero without an answer. -/
def countOf (reply? : Option Reply) : Nat :=
  (reply?.map Reply.toCount).getD 0

/-- The number that an answer reports. -/
def numberOf (reply? : Option Reply) : Except Error Int :=
  match (rowsOf reply?).head?.bind fun row => row.cells.head? with
  | none => .ok 0
  | some cell =>
    match ScalarType.int64.decode cell with
    | .ok v => .ok (v.integer?.getD 0)
    | .error fault => .error (.decode "COUNT(*)".toList fault)

/-- The key of a record that was inserted, if it was. -/
def insertedKey? (e : Entity) (reply? : Option Reply) : Option Row :=
  if (e.columns.filter Column.isKey).isEmpty then if 0 < countOf reply? then some ⟨[], []⟩ else none
  else (rowsOf reply?).head?

/-- The result of an operation, read from the answers to its statements; a failed connection leaves no answer. -/
def result (e : Entity) (replies : List (Option Reply)) : Operation α → Except Error α
  | count => numberOf replies.head?.join
  | all | whereSteps _ | whereText _ | filter _ | whereColumn _ _ _ | whereEqual _ =>
    (rowsOf replies.head?.join).mapM fun row => e.readRecord row []
  | create _ => .ok (insertedKey? e replies.head?.join)
  | createAll _ => .ok (replies.countP fun reply? => (insertedKey? e reply?).isSome)
  | updateOnly _ _ | update _ | delete _ => .ok (0 < countOf replies.head?.join)
  | deleteIn _ _ => .ok (countOf replies.head?.join)
  | join joinings => (rowsOf replies.head?.join).mapM (JoinChain.ofJoinings e joinings).readRow

/-! ### Every operation has one form -/

@[simp]
theorem ofExcept_ok (a : α) : Action.ofExcept (.ok a) = pure a := rfl

@[simp]
theorem ofExcept_error (err : Error) : (Action.ofExcept (.error err) : Action α) = throw err := rfl

private theorem ofExcept_map {β γ : Type} (x : Except Error α) (f : α → β) (k : β → Action γ) :
    (Action.ofExcept (x.map f) >>= k) = Action.ofExcept x >>= fun a => k (f a) := by
  cases x <;> rfl

private theorem mapM_singleton {β : Type} (st : Statement) (k : List (Option Reply) → Action β) :
    ([st].mapM Action.perform >>= k) = Action.perform st >>= fun reply? => k [reply?] := by
  simp

/-- Records are read from the rows of an answer; without an answer there are none. -/
private theorem readRecords_eq (e : Entity) (sql : Text) :
    Repository.readRecords e sql = Action.perform (queryOf sql) >>= fun reply? =>
      Action.ofExcept ((rowsOf reply?).mapM fun row => e.readRecord row []) := by
  simp only [Repository.readRecords, Action.query, bind_assoc, pure_bind]
  refine congrArg _ (funext fun reply? => ?_)
  cases reply? <;> rfl

private theorem count_eq (e : Entity) :
    Repository.count e = Action.perform (queryOf ("SELECT COUNT(*) FROM ".toList ++ e.tableText)) >>= fun reply? =>
      Action.ofExcept (numberOf reply?) := by
  simp only [Repository.count, Action.query, bind_assoc, pure_bind]
  refine congrArg _ (funext fun reply? => ?_)
  cases reply? with
  | none => rfl
  | some reply =>
    simp only [Option.map_some, numberOf, rowsOf, Option.getD_some]
    cases reply.toRows.head?.bind fun row => row.cells.head? with
    | none => rfl
    | some cell =>
      dsimp only
      cases ScalarType.int64.decode cell <;> rfl

private theorem changesRow_eq (st : Statement) (hkind : st.kind = .execute) :
    Repository.changesRow st = Action.perform st >>= fun reply? =>
      Action.ofExcept (.ok (decide (0 < countOf reply?))) := by
  obtain ⟨kind, sql, bindings⟩ := st
  obtain rfl : kind = .execute := hkind
  simp only [Repository.changesRow, Action.execute, bind_assoc, pure_bind]
  refine congrArg _ (funext fun reply? => ?_)
  cases reply? <;> rfl

private theorem kind_insertStatement (e : Entity) (r : Record) :
    (Repository.insertStatement e r).kind =
      if (e.columns.filter Column.isKey).isEmpty then .execute else .query := by
  simp only [Repository.insertStatement, List.isEmpty_map]

private theorem insert_eq (e : Entity) (r : Record) :
    Repository.insert e r = Action.perform (Repository.insertStatement e r) >>= fun reply? =>
      Action.ofExcept (.ok (insertedKey? e reply?)) := by
  have hkind := kind_insertStatement e r
  rw [Repository.insert]
  generalize Repository.insertStatement e r = st at hkind
  obtain ⟨kind, sql, bindings⟩ := st
  by_cases hkeys : (e.columns.filter Column.isKey).isEmpty = true
  · rw [if_pos hkeys] at hkind
    obtain rfl : kind = .execute := hkind
    simp only [Action.execute, bind_assoc, pure_bind, insertedKey?, if_pos hkeys]
    refine congrArg _ (funext fun reply? => ?_)
    cases reply? with
    | none => rfl
    | some reply => by_cases hcount : 0 < reply.toCount <;> simp [countOf, hcount]
  · rw [if_neg hkeys] at hkind
    obtain rfl : kind = .query := hkind
    simp only [Action.query, bind_assoc, pure_bind, insertedKey?, if_neg hkeys]
    refine congrArg _ (funext fun reply? => ?_)
    cases reply? <;> rfl

private theorem insertAll_eq (e : Entity) (records : List Record) :
    Repository.insertAll e records = (records.map (Repository.insertStatement e)).mapM Action.perform >>= fun replies =>
      Action.ofExcept (.ok (replies.countP fun reply? => (insertedKey? e reply?).isSome)) := by
  induction records with
  | nil => rfl
  | cons r rest ih =>
    simp only [Repository.insertAll, insert_eq, ih, List.map_cons, List.mapM_cons, bind_assoc, pure_bind, ofExcept_ok]
    refine congrArg _ (funext fun reply? => congrArg _ (funext fun replies => ?_))
    rw [List.countP_cons]

private theorem kind_updatePlan {e : Entity} {r : Record} {columns : List Text} {st : Statement}
    (h : Repository.updatePlan e r columns = .ok st) : st.kind = .execute := by
  obtain ⟨key, -, h⟩ := bind_eq_ok_iff.mp h
  split at h
  · obtain ⟨_, hthrow, -⟩ := bind_eq_ok_iff.mp h
    exact absurd hthrow (by simp [throw, throwThe, MonadExceptOf.throw])
  · obtain ⟨fields, -, h⟩ := bind_eq_ok_iff.mp h
    rw [← Except.ok.inj h, Repository.updateStatement]

private theorem updateOnly_eq (e : Entity) (r : Record) (columns : List Text) :
    Repository.updateOnly e r columns = (do
      Repository.requireValid e r
      let statement ← Action.ofExcept (Repository.updatePlan e r columns)
      let reply? ← Action.perform statement
      Action.ofExcept (.ok (decide (0 < countOf reply?)))) := by
  rw [Repository.updateOnly]
  refine congrArg _ (funext fun _ => ?_)
  cases hplan : Repository.updatePlan e r columns with
  | error err => rfl
  | ok st => simp only [ofExcept_ok, pure_bind, changesRow_eq st (kind_updatePlan hplan)]

private theorem deleteIn_eq (e : Entity) (column : Text) (values : Value) :
    Repository.deleteIn e column values = (do
      let clause ← Action.ofExcept (Repository.clause e [.condition .initial column .isIn (some values)]).toText
      let reply? ← Action.perform { kind := .execute, sql := Repository.deleteWhereSql e clause }
      Action.ofExcept (.ok (countOf reply?))) := by
  simp only [Repository.deleteIn, Action.execute, bind_assoc, pure_bind]
  refine congrArg _ (funext fun clause => congrArg _ (funext fun reply? => ?_))
  cases reply? <;> rfl

/-- A chain is read from the rows of an answer; without an answer there are none. -/
theorem read_eq (chain : JoinChain) :
    chain.read = (do
      let sql ← Action.ofExcept chain.sql
      let reply? ← Action.perform (queryOf sql)
      Action.ofExcept ((rowsOf reply?).mapM chain.readRow)) := by
  simp only [JoinChain.read, Action.query, bind_assoc, pure_bind]
  refine congrArg _ (funext fun sql => congrArg _ (funext fun reply? => ?_))
  cases reply? <;> rfl

/-- Every operation checks its records, writes its statements, runs them in order and reads its result from their
answers. -/
theorem run_eq (e : Entity) (op : Operation α) :
    op.run e = (do
      op.records.forM (Repository.requireValid e)
      let statements ← Action.ofExcept (op.statements e)
      let replies ← statements.mapM Action.perform
      Action.ofExcept (op.result e replies)) := by
  have hnone : ([] : List Record).forM (Repository.requireValid e) = pure () := rfl
  have hone (r : Record) : [r].forM (Repository.requireValid e) = Repository.requireValid e r := by simp
  have hdelete (key : Column × Value) := changesRow_eq (Repository.deleteStatement e key) rfl
  -- with one statement the answers are a list of one, whose head the result is read from
  cases op with
  | count =>
    simp only [run, count_eq, records, hnone, pure_bind, statements, ofExcept_ok, mapM_singleton]
    rfl
  | all =>
    simp only [run, Repository.all, readRecords_eq, records, hnone, pure_bind, statements, ofExcept_ok, mapM_singleton]
    rfl
  | whereText clause =>
    simp only [run, Repository.whereText, readRecords_eq, records, hnone, pure_bind, statements, ofExcept_ok,
      mapM_singleton]
    rfl
  | whereSteps steps =>
    simp only [run, Repository.whereClause, readRecords_eq, records, hnone, pure_bind, statements, ofExcept_map,
      mapM_singleton]
    rfl
  | whereColumn column comparison v =>
    simp only [run, Repository.whereColumn, Repository.whereClause, readRecords_eq, records, hnone, pure_bind,
      statements, ofExcept_map, mapM_singleton]
    rfl
  | filter predicate =>
    simp only [run, Repository.filter, Repository.whereText, readRecords_eq, records, hnone, pure_bind, statements,
      ofExcept_map, mapM_singleton]
    rfl
  | whereEqual criteria =>
    cases criteria with
    | nil => rfl
    | cons first rest =>
      simp only [run, Repository.whereEqual, Repository.whereText, readRecords_eq, records, hnone, pure_bind,
        statements, Repository.queryText, List.isEmpty_cons, Bool.false_eq_true, if_false, ofExcept_map,
        mapM_singleton]
      rfl
  | create r =>
    simp only [run, Repository.create, insert_eq, records, hone, statements, ofExcept_ok, pure_bind, mapM_singleton]
    rfl
  | createAll rs =>
    simp only [run, Repository.createAll, insertAll_eq, records, statements, ofExcept_ok, pure_bind]
    rfl
  | updateOnly r columns =>
    simp only [run, updateOnly_eq, records, hone, statements, ofExcept_map, mapM_singleton]
    rfl
  | update r =>
    simp only [run, Repository.update, updateOnly_eq, records, hone, statements, ofExcept_map, mapM_singleton]
    rfl
  | delete r =>
    simp only [run, Repository.delete, hdelete, records, hnone, pure_bind, statements, ofExcept_map, mapM_singleton]
    rfl
  | deleteIn column values =>
    simp only [run, deleteIn_eq, records, hnone, pure_bind, statements, ofExcept_map, mapM_singleton]
    rfl
  | join joinings =>
    simp only [run, read_eq, records, hnone, pure_bind, statements, ofExcept_map, mapM_singleton]
    rfl

private theorem length_le_one_of_map {β : Type} {x : Except Error β} {f : β → Statement} {statements : List Statement}
    (h : (x.map fun b => [f b]) = .ok statements) : statements.length ≤ 1 := by
  obtain ⟨b, -, rfl⟩ := map_eq_ok_iff.mp h
  exact Nat.le_refl 1

theorem length_statements_le {e : Entity} {op : Operation α} {statements : List Statement}
    (h : op.statements e = .ok statements) : statements.length ≤ op.limit := by
  have hone {st : Statement} (h : (.ok [st] : Except Error (List Statement)) = .ok statements) :
      statements.length ≤ 1 := by
    rw [← Except.ok.inj h]
    exact Nat.le_refl 1
  cases op with
  | createAll records =>
    rw [← Except.ok.inj h, List.length_map]
    exact Nat.le_refl _
  | whereEqual criteria =>
    rw [Operation.statements] at h
    split at h
    · rw [← Except.ok.inj h]
      exact Nat.zero_le _
    · exact length_le_one_of_map h
  | count => exact hone h
  | all => exact hone h
  | whereText clause => exact hone h
  | create r => exact hone h
  | whereSteps steps => exact length_le_one_of_map h
  | filter predicate => exact length_le_one_of_map h
  | whereColumn column comparison v => exact length_le_one_of_map h
  | updateOnly r columns => exact length_le_one_of_map h
  | update r => exact length_le_one_of_map h
  | delete r => exact length_le_one_of_map h
  | deleteIn column values => exact length_le_one_of_map h
  | join joinings => exact length_le_one_of_map h

end Operation

end EntityStore
