import EntityStore.Entity.Column
import EntityStore.Query.Operator

/-!
# Predicate expressions

A predicate is a tree over columns and constants.  A column may belong to a parameter of the predicate, and its type
may be known; whether an expression is a truth value is read off the tree.
-/

namespace EntityStore

/-- An expression. -/
inductive Expr where
  /-- A column of a parameter, or of the only table there is. -/
  | column (param? : Option Text) (name : Text) (type? : Option ScalarType)
  /-- A column that the entity does not declare. -/
  | unknownColumn (entity name : Text)
  | constant (v : Value)
  | unary (op : UnaryOp) (e : Expr)
  | binary (op : BinaryOp) (left right : Expr)
  /-- The value of something that may be absent. -/
  | optionalValue (e : Expr)
  /-- Whether something that may be absent is there. -/
  | hasValue (e : Expr)
  /-- A function applied to arguments. -/
  | call (name : Text) (args : List Expr)
  /-- A function applied to a receiver and arguments. -/
  | method (receiver : Expr) (name : Text) (args : List Expr)

namespace Expr

/-- Whether an expression is a truth value. -/
def isBoolean : Expr → Bool
  | .column _ _ type? => type? == some .bool
  | .unknownColumn _ _ => false
  | .constant (.bool _) => true
  | .constant _ => false
  | .unary .not _ => true
  | .unary .negate _ => false
  | .unary .convert e => e.isBoolean
  | .binary op left right =>
    op.isLogical || op.isComparison || (op.isBitwise && left.isBoolean && right.isBoolean)
  | .optionalValue e => e.isBoolean
  | .hasValue _ => true
  | .call _ _ => true
  | .method _ _ _ => true

/-- An expression as messages describe it, by its outermost part. -/
def describe : Expr → Text
  | .column _ name _ => "column `".toList ++ name ++ "`".toList
  | .unknownColumn entity name => "column `".toList ++ entity ++ ".".toList ++ name ++ "`".toList
  | .constant v => v.kind ++ " constant".toList
  | .unary op _ => "unary operator `".toList ++ op.name ++ "`".toList
  | .binary op _ _ => "binary operator `".toList ++ op.name ++ "`".toList
  | .optionalValue _ => "optional value".toList
  | .hasValue _ => "has-value check".toList
  | .call name _ => "method call `".toList ++ name ++ "`".toList
  | .method _ name _ => "method call `".toList ++ name ++ "`".toList

/-- The function that asks whether a text or a list contains something. -/
def containsName : Text := "contains".toList

/-- The function that asks how a text starts. -/
def startsWithName : Text := "starts_with".toList

/-- The function that asks how a text ends. -/
def endsWithName : Text := "ends_with".toList

/-- Whether an expression is one of the values. -/
def isIn (e : Expr) (values : Value) : Expr :=
  .method (.constant values) containsName [e]

end Expr

/-- A parameter of a predicate: one of the entities that the predicate speaks of. -/
structure Param where
  index : Nat
  entity : Text
  columns : List Column

namespace Param

/-- The name of a parameter. -/
def name (p : Param) : Text :=
  'p' :: Text.ofNat p.index

/-- A column of a parameter, with the type that the entity declares. -/
def col (p : Param) (column : Text) : Expr :=
  match findColumn? p.columns column with
  | some c => .column (some p.name) c.name (some c.type.scalar)
  | none => .unknownColumn p.entity column

end Param

/-- The aliases of parameters. -/
abbrev Aliases := List (Text × Text)

/-- Gives a parameter an alias in place of any that it had. -/
def Aliases.insert (aliases : Aliases) (param tableAlias : Text) : Aliases :=
  aliases.filter (fun entry => entry.1 != param) ++ [(param, tableAlias)]

/-- The alias of a parameter, if it has one. -/
def Aliases.find? (aliases : Aliases) (param : Text) : Option Text :=
  List.lookup param aliases

end EntityStore
