import EntityStore.Error
import EntityStore.Text.Quoted

/-!
# The guard

No statement with a comment mark reaches a connection.  The guard looks at a statement in which every quote was
written twice; this neither makes nor hides a mark.
-/

namespace EntityStore.Guard

/-- The marks that begin or end a comment. -/
def commentMarks : List Text :=
  ["--".toList, ";--".toList, "/*".toList, "*/".toList]

/-- Whether a comment mark stands in the statement. -/
def isSuspect (sql : Text) : Bool :=
  commentMarks.any fun mark => mark.occursIn (Text.doubleQuotes sql)

/-- Refuses a suspect statement. -/
def check (sql : Text) : Except Error Unit :=
  if isSuspect sql then .error (.injectionSuspected sql) else .ok ()

end EntityStore.Guard
