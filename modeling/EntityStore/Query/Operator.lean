import EntityStore.Text.Basic

/-!
# Operators

The unary and binary operators of predicate expressions.
-/

namespace EntityStore

/-- An operator before one operand. -/
inductive UnaryOp where
  | not
  | negate
  /-- A change of type, which leaves no trace in a statement. -/
  | convert
  deriving DecidableEq, Repr

/-- An operator between two operands. -/
inductive BinaryOp where
  | add
  | subtract
  | multiply
  | divide
  | modulo
  | bitAnd
  | bitOr
  | exclusiveOr
  | andAlso
  | orElse
  | equal
  | notEqual
  | greaterThan
  | greaterThanOrEqual
  | lessThan
  | lessThanOrEqual
  /-- The first operand that is not null; it has no form in a statement. -/
  | coalesce
  deriving DecidableEq, Repr

/-- The name of a unary operator in messages. -/
def UnaryOp.name : UnaryOp → Text
  | .not => "Not".toList
  | .negate => "Negate".toList
  | .convert => "Convert".toList

namespace BinaryOp

/-- All binary operators, in the order of their declaration. -/
def all : List BinaryOp :=
  [add, subtract, multiply, divide, modulo, bitAnd, bitOr, exclusiveOr, andAlso, orElse, equal, notEqual, greaterThan,
    greaterThanOrEqual, lessThan, lessThanOrEqual, coalesce]

/-- The name of a binary operator in messages. -/
def name : BinaryOp → Text
  | add => "Add".toList
  | subtract => "Subtract".toList
  | multiply => "Multiply".toList
  | divide => "Divide".toList
  | modulo => "Modulo".toList
  | bitAnd => "BitAnd".toList
  | bitOr => "BitOr".toList
  | exclusiveOr => "ExclusiveOr".toList
  | andAlso => "AndAlso".toList
  | orElse => "OrElse".toList
  | equal => "Equal".toList
  | notEqual => "NotEqual".toList
  | greaterThan => "GreaterThan".toList
  | greaterThanOrEqual => "GreaterThanOrEqual".toList
  | lessThan => "LessThan".toList
  | lessThanOrEqual => "LessThanOrEqual".toList
  | coalesce => "Coalesce".toList

/-- The form of a binary operator in a statement, if it has one. -/
def symbol? : BinaryOp → Option Text
  | add => some "+".toList
  | subtract => some "-".toList
  | multiply => some "*".toList
  | divide => some "/".toList
  | modulo => some "%".toList
  | bitAnd => some "&".toList
  | bitOr => some "|".toList
  | exclusiveOr => some "^".toList
  | andAlso => some "AND".toList
  | orElse => some "OR".toList
  | equal => some "=".toList
  | notEqual => some "<>".toList
  | greaterThan => some ">".toList
  | greaterThanOrEqual => some ">=".toList
  | lessThan => some "<".toList
  | lessThanOrEqual => some "<=".toList
  | coalesce => none

/-- Whether an operator joins two truth values. -/
def isLogical : BinaryOp → Bool
  | andAlso | orElse => true
  | _ => false

/-- Whether an operator compares its operands. -/
def isComparison : BinaryOp → Bool
  | equal | notEqual | greaterThan | greaterThanOrEqual | lessThan | lessThanOrEqual => true
  | _ => false

/-- Whether an operator works on bits, and so joins truth values if both operands are. -/
def isBitwise : BinaryOp → Bool
  | bitAnd | bitOr | exclusiveOr => true
  | _ => false

end BinaryOp

end EntityStore
