import EntityStore.Text.Basic

/-!
# Bracketed names

A name is written between square brackets, and a closing bracket inside it is written twice.  A column may carry
the alias of its table before it, a table the name of its schema.
-/

namespace EntityStore.Text

/-- The text with every closing bracket written twice. -/
def doubleBrackets (t : Text) : Text :=
  t.flatMap fun c => if c = ']' then [']', ']'] else [c]

/-- The bracketed form of a name. -/
def bracket (name : Text) : Text :=
  '[' :: name.doubleBrackets ++ [']']

/-- A column, after the alias of its table if it has one. -/
def bracketColumn (alias? : Option Text) (name : Text) : Text :=
  match alias? with
  | some table => bracket table ++ '.' :: bracket name
  | none => bracket name

/-- A table, after its schema unless the schema is empty. -/
def bracketTable (schema table : Text) : Text :=
  match schema with
  | [] => bracket table
  | _ => bracket schema ++ '.' :: bracket table

end EntityStore.Text
