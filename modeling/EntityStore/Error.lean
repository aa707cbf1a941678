import EntityStore.Entity.FieldError
import EntityStore.Query.Comparison
import EntityStore.Query.Operator
import EntityStore.Value.Decode

/-!
# Errors

Every failure has a cause, and the text of a failure is a function of its cause.  Failures are of three sorts: those
found before a statement runs, those of the connection that runs it, and those of decoding its rows.  Only the
failures of a connection may be kept from the caller.
-/

namespace EntityStore

/-- Why a value cannot stand in a statement. -/
inductive TypeFault where
  | nullLiteral
  | binaryLiteral
  | listLiteral
  | notFinite (d : Double)
  | nullOperand
  | other (message : Text)

/-- Why an expression is no predicate.  Parts of the expression are given by their descriptions. -/
inductive ExpressionFault where
  | notBoolean (found : Text)
  | unknownColumn (entity column : Text)
  | operator (op : BinaryOp)
  | listOperand
  | collection (found : Text)
  | pattern (target found : Text)
  | method (name : Text)
  | other (message : Text)

/-- Why a comparison does not fit its value. -/
inductive ComparisonFault where
  | missingValue (comparison : Comparison) (column : Text)
  | notNumeric (comparison : Comparison) (column found : Text)
  | other (message : Text)

/-- Why a connection failed. -/
inductive BackendFault where
  | noColumnCount
  | badColumnCount (cell : Value)
  | boundList
  | other (message : Text)

/-- Why an entity cannot be written as asked. -/
inductive ValidationFault where
  | noKey (entity : Text)
  | nothingToUpdate (entity : Text)
  | unknownColumn (entity column : Text)
  | keyColumn (entity column : Text)
  | repeatedColumn (column : Text)
  | other (message : Text)

/-- A failure. -/
inductive Error where
  | unsupportedType (fault : TypeFault)
  | unsupportedExpression (fault : ExpressionFault)
  | invalidComparison (fault : ComparisonFault)
  | unbalancedGroup
  | unclosedGroup (count : Nat)
  | injectionSuspected (sql : Text)
  | schemaMismatch (schema table : Text) (expected actual : Nat)
  | backend (fault : BackendFault)
  | decode (column : Text) (fault : DecodeFault)
  | validation (fault : ValidationFault)
  | invalidEntity (entity : Text) (errors : FieldErrors)
  | other (message : Text)

/-- The message of a value that cannot stand in a statement. -/
def TypeFault.message : TypeFault → Text
  | .nullLiteral => "NULL has no literal form; use IsNull/IsNotNull".toList
  | .binaryLiteral => "binary values cannot be rendered as literals".toList
  | .listLiteral => "a list is only valid as the operand of In/NotIn".toList
  | .notFinite d => "non-finite double ".toList ++ d.toText
  | .nullOperand => "NULL constant in predicate".toList
  | .other message => message

/-- A text between backquotes. -/
def ticked (t : Text) : Text :=
  "`".toList ++ t ++ "`".toList

/-- The message of an expression that is no predicate. -/
def ExpressionFault.message : ExpressionFault → Text
  | .notBoolean found => "predicate root must be boolean, got ".toList ++ found
  | .unknownColumn entity column => "entity ".toList ++ ticked entity ++ " has no column ".toList ++ ticked column
  | .operator op => "binary operator ".toList ++ ticked op.name
  | .listOperand => "list constant outside a membership call".toList
  | .collection found => "membership collection must be a materialized list, got ".toList ++ found
  | .pattern target found => "pattern match of ".toList ++ target ++ " against ".toList ++ found
  | .method name => "method call ".toList ++ ticked name
  | .other message => message

/-- A comparison of a column, as messages begin. -/
def Comparison.describe (comparison : Comparison) (column : Text) : Text :=
  comparison.name ++ " on [".toList ++ column ++ "]".toList

/-- The message of a comparison that does not fit its value. -/
def ComparisonFault.message : ComparisonFault → Text
  | .missingValue comparison column =>
    comparison.describe column ++ " requires a value; only IsNull/IsNotNull may omit it".toList
  | .notNumeric comparison column found =>
    comparison.describe column ++ " requires a numeric value, got ".toList ++ found
  | .other message => message

/-- The message of a connection that failed. -/
def BackendFault.message : BackendFault → Text
  | .noColumnCount => "column count query returned no rows".toList
  | .badColumnCount cell => "invalid column count ".toList ++ cell.inspect
  | .boundList => "list values cannot be bound as a parameter".toList
  | .other message => message

/-- The message of an entity that cannot be written as asked. -/
def ValidationFault.message : ValidationFault → Text
  | .noKey entity => entity ++ " declares no primary key".toList
  | .nothingToUpdate entity => entity ++ " has no updatable columns".toList
  | .unknownColumn entity column => entity ++ " has no column ".toList ++ ticked column
  | .keyColumn entity column => entity ++ ".".toList ++ column ++ " is a key column and cannot be updated".toList
  | .repeatedColumn column => "column ".toList ++ ticked column ++ " listed twice".toList
  | .other message => message

namespace Error

/-- The text of a failure. -/
def message : Error → Text
  | .unsupportedType fault => "Unsupported type: ".toList ++ fault.message
  | .unsupportedExpression fault => "Unsupported expression: ".toList ++ fault.message
  | .invalidComparison fault => "Invalid comparison: ".toList ++ fault.message
  | .unbalancedGroup => "Unbalanced group: end_group() called with no open group".toList
  | .unclosedGroup count =>
    "Unclosed group: ".toList ++ Text.ofNat count ++
      " query group(s) must be closed before calling results()".toList
  | .injectionSuspected sql => "Sql injection suspected, statement aborted: ".toList ++ sql
  | .schemaMismatch schema table expected actual =>
    "Repository definition for [".toList ++ schema ++ "].[".toList ++ table ++
      "] does not match the database (expected ".toList ++ Text.ofNat expected ++ " columns, found ".toList ++
      Text.ofNat actual ++ "); regenerate the repository".toList
  | .backend fault => "Backend execution error: ".toList ++ fault.message
  | .decode column fault => "Decode error on column '".toList ++ column ++ "': ".toList ++ fault.message
  | .validation fault => "Validation error: ".toList ++ fault.message
  | .invalidEntity entity errors => "Invalid ".toList ++ entity ++ ": ".toList ++ errors.toText
  | .other message => message

/-- Whether a failure comes from a connection. -/
def isBackend : Error → Bool
  | .backend _ => true
  | _ => false

/-- Whether a failure is found before a statement runs. -/
def isValidation : Error → Bool
  | .unsupportedType _ | .unsupportedExpression _ | .invalidComparison _ | .unbalancedGroup | .unclosedGroup _
  | .injectionSuspected _ | .validation _ | .invalidEntity _ _ => true
  | .schemaMismatch _ _ _ _ | .backend _ | .decode _ _ | .other _ => false

/-- What the rules of an entity found, if this is why it was refused. -/
def fieldErrors? : Error → Option FieldErrors
  | .invalidEntity _ errors => some errors
  | _ => none

end Error

end EntityStore
