import EntityStore.Query.Condition
import EntityStore.Query.Expr

/-!
# The text of predicates

Every operator stands in parentheses of its own, so that no operator binds its neighbours.  A truth value that
stands for itself is compared with one; as an operand of another operator it is left bare.  A pattern joins its
operand with wildcards: inside the quotes of a literal, and by concatenation beside a column.
-/

namespace EntityStore

/-- Where an expression stands. -/
structure Place where
  /-- A truth value is left bare. -/
  bare : Bool := false
  /-- The wildcard before a pattern. -/
  before : Text := []
  /-- The wildcard after a pattern. -/
  after : Text := []

namespace Place

/-- The place of an operand. -/
def operand (e : Expr) : Place :=
  ⟨e.isBoolean, [], []⟩

/-- The place of a pattern between wildcards. -/
def pattern (before after : Text) : Place :=
  ⟨false, before, after⟩

/-- Whether a wildcard stands on either side. -/
def hasWildcard (p : Place) : Bool :=
  !p.before.isEmpty || !p.after.isEmpty

end Place

/-- A literal without its quotes, and pairs of quotes inside it written once; a bare literal as it is. -/
def unquoted (literal : Text) : Text :=
  if literal.head? = some '\'' then Text.undoubleQuotes (Text.dropQuotes literal) else literal

/-- The text of a column. -/
def columnText (aliases : Aliases) (param? : Option Text) (name : Text) (type? : Option ScalarType) (place : Place) :
    Text :=
  let col := Text.bracketColumn (param?.bind aliases.find?) name
  if place.hasWildcard then
    (if place.before.isEmpty then [] else Text.quote place.before ++ ['+']) ++ col ++
      (if place.after.isEmpty then [] else '+' :: Text.quote place.after)
  else if type? = some .bool ∧ place.bare = false then '(' :: col ++ " = 1)".toList
  else col

/-- The text of a constant. -/
def constantText (place : Place) : Value → Except Error Text
  | .bool b =>
    let word := if b then "'True'".toList else "'False'".toList
    .ok (if place.bare then word else '(' :: word ++ " = 1)".toList)
  | .list _ => .error (.unsupportedExpression .listOperand)
  | .null => .error (.unsupportedType .nullOperand)
  | v =>
    v.literal.map fun literal =>
      if place.hasWildcard then Text.quote (place.before ++ unquoted literal ++ place.after) else literal

/-- The text of a membership, given the comparand; several batches already stand in parentheses. -/
def membershipText (col : Text) (items : List Value) : Except Error Text :=
  (Value.list items).literalBatches.map fun batches =>
    let t := batchesText col false batches
    if batches.length ≤ 1 then '(' :: t ++ [')'] else t

/-- Whether a pattern match can be written: the target is no list, and the pattern carries wildcards. -/
def canMatch : Expr → Expr → Bool
  | .constant (.list _), _ => false
  | _, .constant _ => true
  | _, .column _ _ _ => true
  | _, .optionalValue _ => true
  | _, _ => false

/-- The wildcards before and after the argument of a matching function. -/
def wildcards? (name : Text) : Option (Text × Text) :=
  if name = Expr.containsName then some (['%'], ['%'])
  else if name = Expr.startsWithName then some ([], ['%'])
  else if name = Expr.endsWithName then some (['%'], [])
  else none

namespace Expr

/-- The text of an expression in its place. -/
def textAt (aliases : Aliases) (place : Place) : Expr → Except Error Text
  | .column param? name type? => .ok (columnText aliases param? name type? place)
  | .unknownColumn entity name => .error (.unsupportedExpression (.unknownColumn entity name))
  | .constant v => constantText place v
  | .unary .convert e => e.textAt aliases place
  | .unary .not e => do
    let t ← e.textAt aliases {}
    .ok ("(NOT ".toList ++ t ++ [')'])
  | .unary .negate e => do
    let t ← e.textAt aliases {}
    .ok ("(-".toList ++ t ++ [')'])
  | .binary op left right =>
    match op.symbol? with
    | none => .error (.unsupportedExpression (.operator op))
    | some symbol => do
      let l ← left.textAt aliases (.operand left)
      let r ← right.textAt aliases (.operand right)
      .ok ('(' :: l ++ ' ' :: symbol ++ ' ' :: r ++ [')'])
  | .optionalValue e => e.textAt aliases place
  | .hasValue e => do
    let t ← e.textAt aliases (.operand e)
    .ok ('(' :: t ++ " <> '')".toList)
  | .call name args =>
    match args with
    | [collection, item] =>
      if name = containsName then
        match collection with
        | .constant (.list items) => do
          let col ← item.textAt aliases (.operand item)
          membershipText col items
        | other => .error (.unsupportedExpression (.collection other.describe))
      else .error (.unsupportedExpression (.method name))
    | _ => .error (.unsupportedExpression (.method name))
  | .method receiver name args =>
    match args, wildcards? name with
    | [arg], some (before, after) =>
      match name == containsName, receiver with
      | true, .constant (.list items) => do
        let col ← arg.textAt aliases (.operand arg)
        membershipText col items
      | _, _ =>
        if canMatch receiver arg then do
          let target ← receiver.textAt aliases (.operand receiver)
          let pattern ← arg.textAt aliases (.pattern before after)
          .ok ('(' :: target ++ " LIKE ".toList ++ pattern ++ [')'])
        else .error (.unsupportedExpression (.pattern receiver.describe arg.describe))
    | _, _ => .error (.unsupportedExpression (.method name))

/-- The text of an expression. -/
def text (aliases : Aliases) (e : Expr) : Except Error Text :=
  e.textAt aliases {}

/-- The text of a predicate, which has to be a truth value. -/
def predicateText (aliases : Aliases) (e : Expr) : Except Error Text :=
  if e.isBoolean then e.text aliases
  else .error (.unsupportedExpression (.notBoolean e.describe))

end Expr

end EntityStore
