import EntityStore.Proofs.Sql.Nesting
import EntityStore.Query.Operator
import EntityStore.Text.Bracketed

/-!
# Predicates as they are read

What the text of a predicate says to whoever reads it: a tree of operators over columns and literals.  `Formula.read?`
is the reader.  It knows the lexical rules of statements and the grammar

* an operand is a column, perhaps with wildcards joined to it, a literal, or an operation in parentheses,
* an operation is a negation, one of the binary operators between two operands, a pattern match, or memberships in
  lists of literals joined by OR, or the constant `1=0`.

No operator binds stronger than another in this grammar: which operands belong together is said by parentheses alone.
-/

namespace EntityStore

mutual

/-- A predicate, or a part of one, as it is read. -/
inductive Formula where
  /-- A column with the wildcards before and after it; without them both texts are empty. -/
  | column (before : Text) (alias? : Option Text) (name : Text) (after : Text)
  | literal (l : Literal)
  /-- The constant that never holds. -/
  | never
  | not (operand : Formula)
  | negate (operand : Formula)
  | binary (op : BinaryOp) (left right : Formula)
  | like (target pattern : Formula)
  | anyIn (tests : Memberships)

/-- Memberships in lists, at least one. -/
inductive Memberships where
  | one (item : Formula) (literals : List Literal)
  | or (item : Formula) (literals : List Literal) (rest : Memberships)

end

/-! ### The written form -/

/-- A column after its alias. -/
def columnTokens (alias? : Option Text) (name : Text) : List Token :=
  match alias? with
  | some table => [.name table, .char '.', .name name]
  | none => [.name name]

/-- A column with its wildcards. -/
def patternTokens (before : Text) (alias? : Option Text) (name after : Text) : List Token :=
  (if before = [] then [] else [.string before, .char '+']) ++ columnTokens alias? name ++
    (if after = [] then [] else [.char '+', .string after])

/-- Operands with a word between them. -/
def betweenTokens (left : List Token) (word : Text) (right : List Token) : List Token :=
  left ++ .char ' ' :: (Token.chars word ++ .char ' ' :: right)

mutual

/-- The tokens of a formula; every operation stands in its own parentheses. -/
def Formula.tokens : Formula → List Token
  | .column before alias? name after => patternTokens before alias? name after
  | .literal l => l.tokens
  | .never => Token.enclose (Token.chars "1=0".toList)
  | .not operand => Token.enclose (Token.chars "NOT".toList ++ .char ' ' :: operand.tokens)
  | .negate operand => Token.enclose (.char '-' :: operand.tokens)
  | .binary op left right => Token.enclose (betweenTokens left.tokens (op.symbol?.getD []) right.tokens)
  | .like target pattern => Token.enclose (betweenTokens target.tokens "LIKE".toList pattern.tokens)
  | .anyIn tests => Token.enclose tests.tokens

/-- The tokens of memberships with OR between them. -/
def Memberships.tokens : Memberships → List Token
  | .one item literals => betweenTokens item.tokens "IN".toList (Token.enclose (Literal.listTokens literals))
  | .or item literals rest =>
    betweenTokens (betweenTokens item.tokens "IN".toList (Token.enclose (Literal.listTokens literals)))
      "OR".toList rest.tokens

end

/-- The written form of a formula. -/
def Formula.text (f : Formula) : Text :=
  Token.spell f.tokens

mutual

/-- Whether every operator has a form in statements and no list is empty. -/
def Formula.isProper : Formula → Bool
  | .column _ _ _ _ => true
  | .literal _ => true
  | .never => true
  | .not operand => operand.isProper
  | .negate operand => operand.isProper
  | .binary op left right => op.symbol?.isSome && left.isProper && right.isProper
  | .like target pattern => target.isProper && pattern.isProper
  | .anyIn tests => tests.isProper

/-- Whether memberships are proper. -/
def Memberships.isProper : Memberships → Bool
  | .one item literals => item.isProper && !literals.isEmpty
  | .or item literals rest => item.isProper && !literals.isEmpty && rest.isProper

end

/-! ### The reader -/

/-- The operator of the given form. -/
def BinaryOp.ofSymbol? (t : Text) : Option BinaryOp :=
  all.find? fun op => op.symbol? = some t

theorem BinaryOp.ofSymbol?_of_symbol? {op : BinaryOp} {t : Text} (h : op.symbol? = some t) :
    ofSymbol? t = some op := by
  cases op <;> cases h <;> decide

namespace Formula

/-- A word of a predicate. -/
abbrev Word := List (Piece (Option Formula))

/-- The wildcard at the start of a word, and what follows it. -/
def takeBefore : Word → Text × Word
  | .token (.string before) :: .token (.char '+') :: w => (before, w)
  | w => ([], w)

/-- The wildcard that a word is the end of. -/
def readAfter? : Word → Option Text
  | [] => some []
  | [.token (.char '+'), .token (.string after)] => some after
  | _ => none

/-- The column at the start of a word with what follows it. -/
def takeColumn? : Word → Option (Option Text × Text × Word)
  | .token (.name table) :: .token (.char '.') :: .token (.name name) :: w => some (some table, name, w)
  | .token (.name name) :: w => some (none, name, w)
  | _ => none

/-- The column that a word is. -/
def column? (w : Word) : Option Formula := do
  let (before, w) := takeBefore w
  let (alias?, name, w) ← takeColumn? w
  let after ← readAfter? w
  some (.column before alias? name after)

/-- The operand that a word is. -/
def operand? (w : Word) : Option Formula :=
  match w with
  | [.group _ reading] => reading
  | w => (column? w).or ((Piece.literal? w).map .literal)

/-- The membership of an item in a list. -/
def membership? (item operator list : Word) : Option (Formula × List Literal) :=
  match list with
  | [.group inside _] =>
    if Piece.text? operator = some "IN".toList then do
      let item ← operand? item
      let literals ← Piece.literals? inside
      some (item, literals)
    else none
  | _ => none

/-- The memberships that words are. -/
def memberships? : List Word → Option Memberships
  | [item, operator, list] => do
    let (item, literals) ← membership? item operator list
    some (.one item literals)
  | item :: operator :: list :: joint :: ws =>
    if Piece.text? joint = some "OR".toList then do
      let (item, literals) ← membership? item operator list
      let rest ← memberships? ws
      some (.or item literals rest)
    else none
  | _ => none

/-- The binary operation or pattern match that words are. -/
def binary? (left operator right : Word) : Option Formula := do
  let t ← Piece.text? operator
  let left ← operand? left
  let right ← operand? right
  if t = "LIKE".toList then some (.like left right)
  else (BinaryOp.ofSymbol? t).map fun op => .binary op left right

/-- The operation other than memberships that words are. -/
def plainOperation? : List Word → Option Formula
  | [.token (.char '-') :: w] => (operand? w).map .negate
  | [w] => if Piece.text? w = some "1=0".toList then some .never else none
  | [word, w] => if Piece.text? word = some "NOT".toList then (operand? w).map .not else none
  | [left, operator, right] => binary? left operator right
  | _ => none

/-- The operation that the words between two parentheses are. -/
def operation? (ws : List Word) : Option Formula :=
  ((memberships? ws).map .anyIn).or (plainOperation? ws)

/-- Reads the text of a predicate. -/
def read? (t : Text) : Option Formula :=
  match readWords? operation? t with
  | some [w] => operand? w
  | _ => none

end Formula

end EntityStore
