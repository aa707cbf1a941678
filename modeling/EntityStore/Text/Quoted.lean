import EntityStore.Text.Basic

/-!
# String literals

A string literal of SQL stands between single quotes, and a quote inside it is written twice.
-/

namespace EntityStore.Text

/-- The text with every single quote written twice. -/
def doubleQuotes (t : Text) : Text :=
  t.flatMap fun c => if c = '\'' then ['\'', '\''] else [c]

/-- The string literal that stands for the text. -/
def quote (t : Text) : Text :=
  '\'' :: t.doubleQuotes ++ ['\'']

/-- The text with every pair of neighbouring quotes written once, pairs being taken from the left. -/
def undoubleQuotes : Text → Text
  | '\'' :: '\'' :: rest => '\'' :: undoubleQuotes rest
  | c :: rest => c :: undoubleQuotes rest
  | [] => []

/-- The text without its outer pair of quotes; a text that has no such pair is left alone. -/
def dropQuotes (t : Text) : Text :=
  match t with
  | '\'' :: rest => if rest.getLast? = some '\'' then rest.dropLast else t
  | _ => t

theorem doubleQuotes_append (t u : Text) : (t ++ u).doubleQuotes = t.doubleQuotes ++ u.doubleQuotes := by
  simp [doubleQuotes]

theorem dropQuotes_quote (t : Text) : t.quote.dropQuotes = t.doubleQuotes := by
  simp [quote, dropQuotes]

end EntityStore.Text
