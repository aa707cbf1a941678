import EntityStore.Text.Basic

/-!
# Comparisons

How a condition compares a column with its value.
-/

namespace EntityStore

/-- A comparison of a column. -/
inductive Comparison where
  | equals
  | notEquals
  | like
  | notLike
  | greaterThan
  | greaterThanOrEquals
  | lessThan
  | lessThanOrEquals
  | isIn
  | isNotIn
  | isNull
  | isNotNull
  deriving DecidableEq, Repr

namespace Comparison

/-- All comparisons, in the order of their declaration. -/
def all : List Comparison :=
  [equals, notEquals, like, notLike, greaterThan, greaterThanOrEquals, lessThan, lessThanOrEquals, isIn, isNotIn,
    isNull, isNotNull]

/-- The comparisons with a single value. -/
def scalar : List Comparison :=
  [equals, notEquals, like, notLike, greaterThan, greaterThanOrEquals, lessThan, lessThanOrEquals]

/-- The name of a comparison in messages. -/
def name : Comparison → Text
  | equals => "Equals".toList
  | notEquals => "NotEquals".toList
  | like => "Like".toList
  | notLike => "NotLike".toList
  | greaterThan => "GreaterThan".toList
  | greaterThanOrEquals => "GreaterThanOrEquals".toList
  | lessThan => "LessThan".toList
  | lessThanOrEquals => "LessThanOrEquals".toList
  | isIn => "In".toList
  | isNotIn => "NotIn".toList
  | isNull => "IsNull".toList
  | isNotNull => "IsNotNull".toList

/-- The operator that stands for a comparison in a statement. -/
def operator : Comparison → Text
  | equals => "=".toList
  | notEquals => "<>".toList
  | like => "LIKE".toList
  | notLike => "NOT LIKE".toList
  | greaterThan => ">".toList
  | greaterThanOrEquals => ">=".toList
  | lessThan => "<".toList
  | lessThanOrEquals => "<=".toList
  | isIn => "IN".toList
  | isNotIn => "NOT IN".toList
  | isNull => "IS NULL".toList
  | isNotNull => "IS NOT NULL".toList

/-- Whether a comparison asks for an order, so that its value has to be a number. -/
def isOrdering : Comparison → Bool
  | greaterThan | greaterThanOrEquals | lessThan | lessThanOrEquals => true
  | _ => false

/-- Whether a comparison asks for null and takes no value. -/
def isNullCheck : Comparison → Bool
  | isNull | isNotNull => true
  | _ => false

end Comparison

end EntityStore
