import EntityStore.Error
import EntityStore.Text.Blank
import EntityStore.Text.Utf8

/-!
# The trace

What is told of the work: which statement is about to run, which was refused, and which failed.  Long statements are
cut to a number of bytes, never inside a character.
-/

namespace EntityStore

/-- How important an event is. -/
inductive Level where
  | error
  | warn
  | info
  | debug
  | trace
  deriving DecidableEq, Repr

/-- All levels, the most important first. -/
def Level.all : List Level :=
  [.error, .warn, .info, .debug, .trace]

/-- The name of a level. -/
def Level.name : Level → Text
  | error => "ERROR".toList
  | warn => "WARN".toList
  | info => "INFO".toList
  | debug => "DEBUG".toList
  | trace => "TRACE".toList

/-- The sort of a statement, by its first word. -/
inductive StatementSort where
  | select
  | insert
  | update
  | delete
  | other
  deriving DecidableEq, Repr

namespace StatementSort

/-- The name of a sort of statement. -/
def name : StatementSort → Text
  | select => "Select".toList
  | insert => "Insert".toList
  | update => "Update".toList
  | delete => "Delete".toList
  | other => "Other".toList

/-- Whether a character may stand inside a word. -/
def isWordChar (c : Char) : Bool :=
  c.isAlphanum || c == '_'

/-- Whether a statement starts with the given word, in any case and as a whole word. -/
def startsWithWord (word sql : Text) : Bool :=
  Text.equalIgnoringCase (sql.take word.length) word && !(sql[word.length]?.any isWordChar)

/-- The sort of a statement; white space before its first word is skipped. -/
def ofSql (sql : Text) : StatementSort :=
  let sql := sql.trimStart
  if startsWithWord "SELECT".toList sql then select
  else if startsWithWord "INSERT".toList sql then insert
  else if startsWithWord "UPDATE".toList sql then update
  else if startsWithWord "DELETE".toList sql then delete
  else other

end StatementSort

/-- A statement as the trace shows it: whole if it takes no more bytes than the limit, cut and marked otherwise. -/
def shortened (limit? : Option Nat) (sql : Text) : Text :=
  match limit? with
  | some limit => if limit < sql.utf8Length then sql.truncate limit ++ "...".toList else sql
  | none => sql

/-- Something that happened. -/
inductive Event where
  /-- A repository was opened. -/
  | ready (entity table : Text)
  /-- A record was refused by the rules of its entity. -/
  | rejected (entity : Text) (errors : Nat)
  /-- A statement was refused by the guard. -/
  | refused (sql : Text)
  /-- A connection failed. -/
  | failed (e : Error)
  /-- A statement is about to run. -/
  | statement (level : Level) (sort : StatementSort) (bindings : Nat) (sql : Text)

end EntityStore
