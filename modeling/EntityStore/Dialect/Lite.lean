import EntityStore.Query.Condition

/-!
# The lite dialect

Two constructs of statements have another form in the dialect of embedded databases: a cast of a column to text, and
the clause that returns the key of an inserted row, which stands at the end there.
-/

namespace EntityStore.Lite

/-- How a cast to text begins. -/
def castMark : Text := "CONVERT(NVARCHAR(MAX), ".toList

/-- What stands before and after the parenthesis that closes a cast.  Parentheses inside bracketed names do not
close it; the first argument says whether the text starts inside such a name. -/
def splitOperand? : Bool → Text → Option (Text × Text)
  | true, ']' :: ']' :: rest => (splitOperand? true rest).map fun (operand, after) => (']' :: ']' :: operand, after)
  | true, ']' :: rest => (splitOperand? false rest).map fun (operand, after) => (']' :: operand, after)
  | true, c :: rest => (splitOperand? true rest).map fun (operand, after) => (c :: operand, after)
  | false, ')' :: rest => some ([], rest)
  | false, '[' :: rest => (splitOperand? true rest).map fun (operand, after) => ('[' :: operand, after)
  | false, c :: rest => (splitOperand? false rest).map fun (operand, after) => (c :: operand, after)
  | _, [] => none

theorem eq_of_splitOperand? {inName : Bool} {t operand after : Text}
    (h : splitOperand? inName t = some (operand, after)) : t = operand ++ ')' :: after := by
  fun_induction splitOperand? inName t generalizing operand after <;>
    simp_all [Option.map_eq_some_iff]
  all_goals grind

/-- The statement with every cast in the form of the dialect, or nothing if some cast is not closed. -/
def castsFrom? (t : Text) : Option Text :=
  match _hs : Text.splitFirst? castMark t with
  | none => some t
  | some (before, after) =>
    match _ho : splitOperand? false after with
    | none => none
    | some (operand, rest) =>
      (castsFrom? rest).map fun tail => before ++ "CAST(".toList ++ operand ++ " AS TEXT)".toList ++ tail
  termination_by t.length
  decreasing_by
    have := congrArg List.length (Text.eq_append_of_splitFirst? _hs)
    have := congrArg List.length (eq_of_splitOperand? _ho)
    simp at *
    omega

/-- The statement with every cast in the form of the dialect; if some cast is not closed, none is changed. -/
def adaptCasts (sql : Text) : Text :=
  (castsFrom? sql).getD sql

/-- How an insertion begins. -/
def insertMark : Text := "INSERT INTO ".toList

/-- What announces the returned columns. -/
def outputMark : Text := " OUTPUT ".toList

/-- The table under which an inserted row is returned. -/
def insertedMark : Text := "[Inserted].".toList

/-- What announces the inserted values. -/
def valuesMark : Text := " VALUES (".toList

/-- An insertion that returns columns, in the form of the dialect; nothing for any other statement. -/
def adaptOutput? (sql : Text) : Option Text := do
  let _ ← Text.dropMark? insertMark sql
  let (before, after) ← Text.splitFirst? outputMark sql
  let (columns, values) ← Text.splitFirst? valuesMark after
  some (before ++ valuesMark ++ values ++ " RETURNING ".toList ++ Text.replaceAll insertedMark [] columns)

/-- A statement in the form of the dialect. -/
def adapt (sql : Text) : Text :=
  let sql := adaptCasts sql
  (adaptOutput? sql).getD sql

end EntityStore.Lite
