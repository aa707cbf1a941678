import EntityStore.Text.Basic
import EntityStore.Text.Identifier

/-!
# Names in declarations

A record type and its fields are named by identifiers.  A reserved word is no name, but most of them become one
behind the mark `r#`.
-/

namespace EntityStore

/-- The words that cannot be names as they are. -/
def reservedWords : List Text :=
  ["abstract", "as", "async", "await", "become", "box", "break", "const", "continue", "crate", "do", "dyn", "else",
   "enum", "extern", "false", "final", "fn", "for", "if", "impl", "in", "let", "loop", "macro", "match", "mod", "move",
   "mut", "override", "priv", "pub", "ref", "return", "Self", "self", "static", "struct", "super", "trait", "true",
   "try", "type", "typeof", "unsafe", "unsized", "use", "virtual", "where", "while", "yield"].map String.toList

/-- The words that are no names even behind the mark. -/
def unmarkableWords : List Text :=
  ["_", "super", "self", "Self", "crate"].map String.toList

/-- The mark that lets a reserved word be a name. -/
def nameMark : Text := "r#".toList

/-- A name without the mark. -/
def bareName (name : Text) : Text :=
  (Text.dropMark? nameMark name).getD name

/-- Whether a text can name a field, for which a lone underscore will do. -/
def isFieldName (name : Text) : Bool :=
  match Text.dropMark? nameMark name with
  | some bare => bare.isIdentifier && bare ∉ unmarkableWords
  | none => name.isIdentifier && name ∉ reservedWords

/-- Whether a text can name a record type. -/
def isRecordName (name : Text) : Bool :=
  isFieldName name && name != "_".toList

end EntityStore
