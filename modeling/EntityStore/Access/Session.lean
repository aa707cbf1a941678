import EntityStore.Access.Trace
import EntityStore.Entity.Row
import EntityStore.Query.Guard

/-!
# Sessions

A session is what statements run against.  It knows how its connections will answer, one answer to a statement, and
keeps a log: the connections asked for, the statements that reached one, the failures that were reported, and the
trace.  Everything a repository does is a function from a session to a result and the session afterwards.

A statement passes the guard first and is traced; then a connection is opened for it alone.  When the connection
fails, the failure is reported and the caller is told only that there is no answer.  All other failures reach the
caller and are not reported.
-/

namespace EntityStore

/-- A value bound to a named place of a statement. -/
structure Binding where
  name : Text
  value : Value

/-- The value of a column, bound to the place that is named after the column. -/
def Binding.ofColumn (column : Text) (value : Value) : Binding :=
  ⟨'@' :: column, value⟩

/-- Whether a statement asks for rows or for the number of rows that it changed. -/
inductive StatementKind where
  | query
  | execute
  deriving DecidableEq, Repr

/-- A statement with the values bound to it. -/
structure Statement where
  kind : StatementKind
  sql : Text
  bindings : List Binding := []

/-- How a connection answers. -/
inductive Reply where
  /-- There is no connection. -/
  | noConnection (e : Error)
  /-- The statement fails. -/
  | failure (e : Error)
  | rows (columns : List Text) (cells : List (List Value))
  | affected (count : Nat)
  /-- Neither rows nor a number. -/
  | nothing

/-- The rows of an answer. -/
def Reply.toRows : Reply → List Row
  | .rows columns cells => cells.map (Row.mk columns)
  | _ => []

/-- The number of changed rows in an answer. -/
def Reply.toCount : Reply → Nat
  | .affected count => count
  | _ => 0

/-- What becomes of reported failures. -/
inductive Sink where
  | record
  | discard
  | trace
  deriving DecidableEq, Repr

/-- The settings of a repository. -/
structure Settings where
  sink : Sink := .trace
  level : Level := .debug
  /-- The number of bytes of a statement in the trace. -/
  maxSqlLength? : Option Nat := some 200
  /-- Compare the number of columns with that of the table when the repository is opened. -/
  checksSchema : Bool := true

/-- What statements run against. -/
structure Session where
  settings : Settings := {}
  /-- The answers to come. -/
  replies : List Reply := []
  /-- How often a connection was asked for. -/
  connections : Nat := 0
  /-- The statements that reached a connection, in order. -/
  statements : List Statement := []
  /-- The failures that were reported, in order. -/
  reports : List Error := []
  /-- The trace in order. -/
  events : List Event := []

/-- Work on a session that may fail. -/
abbrev Action := ExceptT Error (StateM Session)

namespace Session

/-- The failures that the sink has kept. -/
def recorded (s : Session) : List Error :=
  if s.settings.sink = .record then s.reports else []

/-- Adds an event to the trace. -/
def note (s : Session) (event : Event) : Session :=
  { s with events := s.events ++ [event] }

/-- Tells the sink of a failure. -/
def report (s : Session) (e : Error) : Session :=
  let told := { s with reports := s.reports ++ [e] }
  if s.settings.sink = .trace then told.note (.failed e) else told

/-- Traces a statement that is about to run; its sort is read off the shortened text. -/
def announce (s : Session) (sql : Text) (bindings : Nat) : Session :=
  let shown := shortened s.settings.maxSqlLength? sql
  s.note (.statement s.settings.level (.ofSql shown) bindings shown)

/-- Opens a connection and hands it the statement. -/
def send (s : Session) (statement : Statement) : Except Error Reply × Session :=
  let asked := { s with connections := s.connections + 1, replies := s.replies.tail }
  match s.replies.head? with
  | some (.noConnection e) => (.error e, asked)
  | some (.failure e) => (.error e, { asked with statements := s.statements ++ [statement] })
  | some reply => (.ok reply, { asked with statements := s.statements ++ [statement] })
  | none => (.ok .nothing, { asked with statements := s.statements ++ [statement] })

end Session

namespace Action

/-- Changes the session. -/
def alter (f : Session → Session) : Action Unit :=
  modify f

/-- The result of something that needs no session. -/
def ofExcept {α : Type} : Except Error α → Action α
  | .ok a => pure a
  | .error e => throw e

/-- Refuses a suspect statement, and says so in the trace. -/
def guard (sql : Text) : Action Unit :=
  match Guard.check sql with
  | .ok () => pure ()
  | .error e => do
    alter (·.note (.refused sql))
    throw e

/-- Hands a statement to a connection of its own; every failure reaches the caller. -/
def send (statement : Statement) : Action Reply := fun s =>
  s.send statement

/-- Runs a statement.  A failed connection is reported and leaves no answer. -/
def perform (statement : Statement) : Action (Option Reply) := do
  guard statement.sql
  alter (·.announce statement.sql statement.bindings.length)
  try
    let reply ← send statement
    pure (some reply)
  catch e =>
    if e.isBackend then
      alter (·.report e)
      pure none
    else throw e

/-- Runs a statement that asks for rows. -/
def query (sql : Text) (bindings : List Binding) : Action (Option (List Row)) := do
  let reply? ← perform ⟨.query, sql, bindings⟩
  pure (reply?.map Reply.toRows)

/-- Runs a statement that asks for the number of changed rows. -/
def execute (sql : Text) (bindings : List Binding) : Action (Option Nat) := do
  let reply? ← perform ⟨.execute, sql, bindings⟩
  pure (reply?.map Reply.toCount)

end Action

end EntityStore
