import EntityStore.Value.Basic

/-!
# Field errors

What the rules of an entity find wrong with its fields.  A missing value fails a rule that requires one, an empty
text does not; a text fails a rule on its length if it has more characters than allowed.
-/

namespace EntityStore

/-- The kind of a rule. -/
inductive RuleKind where
  | required
  | maxLength
  | custom (name : Text)
  deriving DecidableEq, Repr

/-- The name of a kind of rule. -/
def RuleKind.name : RuleKind → Text
  | .required => "required".toList
  | .maxLength => "max_len".toList
  | .custom name => name

/-- A rule that a field breaks. -/
structure FieldError where
  field : Text
  rule : RuleKind
  message : Text
  deriving DecidableEq, Repr

namespace FieldError

/-- The error of a field without a value. -/
def missing (field : Text) : FieldError :=
  ⟨field, .required, "Value cannot be null".toList⟩

/-- The error of a field whose text is too long. -/
def tooLong (field : Text) (limit : Nat) : FieldError :=
  ⟨field, .maxLength, "Max length is ".toList ++ Text.ofNat limit⟩

/-- The text of an error. -/
def toText (e : FieldError) : Text :=
  e.field ++ ": ".toList ++ e.message

end FieldError

/-- The number of characters of a value that is text. -/
def Value.textLength? : Value → Option Nat
  | .string t | .xml t => some t.length
  | .char _ => some 1
  | _ => none

/-- The errors of one entity in the order in which they were found. -/
abbrev FieldErrors := List FieldError

namespace FieldErrors

/-- Adds an error if the value of a field is missing. -/
def addMissing (errors : FieldErrors) (field : Text) (v : Value) : FieldErrors :=
  if v.isNull then errors ++ [.missing field] else errors

/-- Adds an error if the text of a field is longer than the limit. -/
def addTooLong (errors : FieldErrors) (field : Text) (v : Value) (limit : Nat) : FieldErrors :=
  match v.textLength? with
  | some length => if limit < length then errors ++ [.tooLong field limit] else errors
  | none => errors

/-- The errors of one field. -/
def ofField (errors : FieldErrors) (field : Text) : FieldErrors :=
  errors.filter fun e => e.field == field

/-- The text of all errors. -/
def toText (errors : FieldErrors) : Text :=
  Text.joinWith "; ".toList (errors.map FieldError.toText)

end FieldErrors

end EntityStore
