import EntityStore.Entity.Basic
import EntityStore.Mapping.Name
import EntityStore.Mapping.Token
import EntityStore.Text.Blank
import EntityStore.Text.Words

/-!
# Mappings

A record type is mapped to an entity by the attributes of its declaration and of its fields.  Every field that is not
skipped becomes a column; its name is that of the field in upper camel case unless an attribute gives another, and at
most one of these columns is the key.  A declaration that cannot be mapped has a fault, the first in the order of
the text.
-/

namespace EntityStore

/-- An attribute: a word alone, or a word with a value. -/
inductive Attribute where
  | word (key : Text)
  /-- The value is a text token with the given content. -/
  | text (key content : Text)
  /-- The value is a token as it is written, perhaps between blanks. -/
  | token (key source : Text)

/-- The word of an attribute. -/
def Attribute.key : Attribute → Text
  | .word key | .text key _ | .token key _ => key

/-- What is declared. -/
inductive DeclarationShape where
  | named
  | generic
  | tuple
  | unit
  | enumeration
  deriving DecidableEq, Repr

/-- A declared field. -/
structure FieldDeclaration where
  name : Text
  type : Text
  attributes : List Attribute

/-- A declared record type. -/
structure Declaration where
  name : Text
  shape : DeclarationShape
  attributes : List Attribute
  fields : List FieldDeclaration

/-- Why a declaration cannot be mapped. -/
inductive MappingFault where
  | generic
  | unnamedFields
  | notARecord
  | unknownAttribute
  | unknownFieldAttribute
  | secondKey
  /-- An attribute does not have the form that its word asks for. -/
  | malformed
  deriving DecidableEq, Repr

/-- The message of a declaration that cannot be mapped; there is none for an attribute of the wrong form. -/
def MappingFault.message? : MappingFault → Option Text
  | .generic => some "Entity cannot be derived for generic structs".toList
  | .unnamedFields => some "Entity can only be derived for structs with named fields".toList
  | .notARecord => some "Entity can only be derived for structs".toList
  | .unknownAttribute => some "expected `name`, `schema` or `table`".toList
  | .unknownFieldAttribute =>
    some "expected `column`, `id`, `identity`, `sql_type`, `skip`, `required` or `max_len`".toList
  | .secondKey => some "only one field may be marked #[orm(id)]".toList
  | .malformed => none

namespace Attribute

/-- An attribute that has to stand alone. -/
def alone : Attribute → Except MappingFault Unit
  | .word _ => .ok ()
  | _ => .error .malformed

/-- The text of an attribute that needs one. -/
def textValue : Attribute → Except MappingFault Text
  | .text _ content => .ok content
  | .token _ source =>
    match Token.readText? source.trim with
    | some content => .ok content
    | none => .error .malformed
  | .word _ => .error .malformed

/-- The number of an attribute that needs one. -/
def numberValue : Attribute → Except MappingFault Nat
  | .token _ source =>
    match Token.readNumber? source.trim with
    | some n => .ok n
    | none => .error .malformed
  | _ => .error .malformed

/-- Whether the value is a token at all. -/
def isReadable : Attribute → Bool
  | .token _ source => Token.isToken source.trim
  | _ => true

/-- The fault of an attribute whose word is unknown; what does not start as a word is no attribute at all. -/
def unknown (a : Attribute) (fault : MappingFault) : MappingFault :=
  match a.key with
  | c :: _ => if isIdentifierStart c then fault else .malformed
  | [] => .malformed

end Attribute

/-- What the attributes of a declaration say. -/
structure EntityNames where
  name? : Option Text := none
  schema? : Option Text := none
  table? : Option Text := none

/-- Adds what one attribute of a declaration says; a later one replaces an earlier one. -/
def EntityNames.apply (names : EntityNames) (a : Attribute) : Except MappingFault EntityNames :=
  if a.key = "name".toList then a.textValue.map fun t => { names with name? := some t }
  else if a.key = "schema".toList then a.textValue.map fun t => { names with schema? := some t }
  else if a.key = "table".toList then a.textValue.map fun t => { names with table? := some t }
  else .error (a.unknown .unknownAttribute)

/-- What the attributes of a field say. -/
structure FieldRules where
  column? : Option Text := none
  isKey : Bool := false
  isIdentity : Bool := false
  declaredType? : Option Text := none
  isSkipped : Bool := false
  isRequired : Bool := false
  maxLength? : Option Nat := none

/-- Adds what one attribute of a field says; a later one replaces an earlier one. -/
def FieldRules.apply (rules : FieldRules) (a : Attribute) : Except MappingFault FieldRules :=
  if a.key = "id".toList then a.alone.map fun _ => { rules with isKey := true }
  else if a.key = "identity".toList then a.alone.map fun _ => { rules with isIdentity := true }
  else if a.key = "skip".toList then a.alone.map fun _ => { rules with isSkipped := true }
  else if a.key = "required".toList then a.alone.map fun _ => { rules with isRequired := true }
  else if a.key = "max_len".toList then a.numberValue.map fun n => { rules with maxLength? := some n }
  else if a.key = "column".toList then a.textValue.map fun t => { rules with column? := some t }
  else if a.key = "sql_type".toList then a.textValue.map fun t => { rules with declaredType? := some t }
  else .error (a.unknown .unknownFieldAttribute)

/-- What all attributes of a field say. -/
def FieldDeclaration.rules (f : FieldDeclaration) : Except MappingFault FieldRules :=
  f.attributes.foldlM FieldRules.apply {}

/-- A field that is mapped to a column. -/
structure MappedField where
  field : Text
  type : Text
  column : Text
  isKey : Bool
  isIdentity : Bool
  declaredType? : Option Text
  isRequired : Bool
  maxLength? : Option Nat

/-- The column that a field becomes under its rules. -/
def FieldDeclaration.mapped (f : FieldDeclaration) (rules : FieldRules) : MappedField :=
  ⟨f.name, f.type, rules.column?.getD (Text.upperCamel (bareName f.name)), rules.isKey, rules.isIdentity,
    rules.declaredType?, rules.isRequired, rules.maxLength?⟩

/-- The columns that fields become in order, given whether a key was seen before them. -/
def mappedFields (keySeen : Bool) : List FieldDeclaration → Except MappingFault (List MappedField)
  | [] => .ok []
  | f :: rest =>
    match f.rules with
    | .error fault => .error fault
    | .ok rules =>
      if rules.isSkipped then mappedFields keySeen rest
      else if keySeen && rules.isKey then .error .secondKey
      else (mappedFields (keySeen || rules.isKey) rest).map (f.mapped rules :: ·)

/-- A mapped record type. -/
structure Mapping where
  name : Text
  entityName : Text
  schema? : Option Text
  table? : Option Text
  fields : List MappedField

/-- Whether the name of a field and the values of its attributes are tokens of their kind. -/
def FieldDeclaration.isReadable (f : FieldDeclaration) : Bool :=
  isFieldName f.name && f.attributes.all Attribute.isReadable

/-- The fields that have a name in the text. -/
def Declaration.namedFields (d : Declaration) : List FieldDeclaration :=
  match d.shape with
  | .named | .generic => d.fields
  | .tuple | .unit | .enumeration => []

/-- Whether all names and all values of attributes are tokens of their kind. -/
def Declaration.isReadable (d : Declaration) : Bool :=
  isRecordName d.name && d.attributes.all Attribute.isReadable && d.namedFields.all FieldDeclaration.isReadable

/-- The mapping of a declaration, or why there is none.  A text that cannot be read comes before all other faults. -/
def Declaration.mapping (d : Declaration) : Except MappingFault Mapping :=
  if !d.isReadable then .error .malformed
  else
    match d.shape with
    | .generic => .error .generic
    | .tuple | .unit => .error .unnamedFields
    | .enumeration => .error .notARecord
    | .named => do
      let names ← d.attributes.foldlM EntityNames.apply {}
      let fields ← mappedFields false d.fields
      pure ⟨d.name, names.name?.getD d.name, names.schema?, names.table?, fields⟩

/-- The column of a mapped field, given the meaning of its type. -/
def MappedField.toColumn (f : MappedField) (type : FieldType) : Column :=
  { name := f.column, type, isKey := f.isKey, isIdentity := f.isIdentity,
    declaredType := f.declaredType?.getD type.scalar.columnType, isRequired := f.isRequired,
    maxLength? := f.maxLength? }

/-- The schema of tables for which no other is given. -/
def defaultSchema : Text := "dbo".toList

/-- The entity of a mapping, if every type of a mapped field has a meaning. -/
def Mapping.entity? (m : Mapping) (meaning : Text → Option FieldType) : Option Entity := do
  let columns ← m.fields.mapM fun f => (meaning f.type).map f.toColumn
  pure ⟨m.entityName, m.schema?.getD defaultSchema, m.table?.getD m.entityName, columns⟩

end EntityStore
