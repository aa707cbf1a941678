import EntityStore.Query.Literal
import EntityStore.Text.Bracketed

/-!
# Conditions

A condition compares one column with one value.  It exists only if its text does: the value is there unless the
comparison asks for null, an order is asked of numbers only, and every leaf of the value has a literal.

Long lists are compared batch by batch, the batches of a membership joined by OR and those of its negation by AND.
An empty list has nothing to compare with: membership is then false and its negation true.
-/

namespace EntityStore

/-- What a column looks like in a comparison: itself, or its text. -/
def comparand (column : Text) (textCast : Bool) : Text :=
  if textCast then "CONVERT(NVARCHAR(MAX), ".toList ++ Text.bracket column ++ ")".toList else Text.bracket column

/-- A comparand, an operator and a batch of literals in parentheses. -/
def batchText (comparand operator batch : Text) : Text :=
  comparand ++ ' ' :: operator ++ " (".toList ++ batch ++ ")".toList

/-- The comparison of a comparand with batches of literals. -/
def batchesText (comparand : Text) (negated : Bool) (batches : List Text) : Text :=
  let operator := if negated then Comparison.isNotIn.operator else Comparison.isIn.operator
  match batches with
  | [] => if negated then "1=1".toList else "1=0".toList
  | [batch] => batchText comparand operator batch
  | _ =>
    '(' :: Text.joinWith (if negated then " AND ".toList else " OR ".toList)
      (batches.map (batchText comparand operator)) ++ [')']

/-- The text of a condition. -/
def conditionText (column : Text) (comparison : Comparison) (value? : Option Value) (textCast : Bool) :
    Except Error Text :=
  let left := comparand column textCast
  match value? with
  | none => .ok (left ++ ' ' :: comparison.operator)
  | some v =>
    match comparison with
    | .like | .notLike =>
      v.literal.map fun literal =>
        left ++ ' ' :: comparison.operator ++ " '%".toList ++ Text.dropQuotes literal ++ "%'".toList
    | .isIn => v.literalBatches.map (batchesText left false)
    | .isNotIn => v.literalBatches.map (batchesText left true)
    | _ => v.literal.map fun literal => left ++ ' ' :: comparison.operator ++ ' ' :: literal

/-- A condition with its text. -/
structure Condition where
  column : Text
  comparison : Comparison
  value? : Option Value
  /-- The column is compared through its text. -/
  textCast : Bool
  sql : Text
  sql_eq : conditionText column comparison value? textCast = .ok sql

/-- The value that a comparison works with: none for a null check, otherwise the one given. -/
def operand (column : Text) (comparison : Comparison) (value? : Option Value) : Except Error (Option Value) :=
  if comparison.isNullCheck then .ok none
  else
    match value? with
    | none => .error (.invalidComparison (.missingValue comparison column))
    | some v =>
      if comparison.isOrdering && !v.isNumeric then
        .error (.invalidComparison (.notNumeric comparison column v.kind))
      else .ok (some v)

/-- The condition with the given parts, or why there is none. -/
def Condition.make (column : Text) (comparison : Comparison) (value? : Option Value) (textCast : Bool) :
    Except Error Condition :=
  match operand column comparison value? with
  | .error e => .error e
  | .ok used =>
    match h : conditionText column comparison used textCast with
    | .error e => .error e
    | .ok sql => .ok ⟨column, comparison, used, textCast, sql, h⟩

end EntityStore
