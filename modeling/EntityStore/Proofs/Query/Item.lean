import EntityStore.Proofs.Sql.Nesting
import EntityStore.Query.Clause

/-!
# Clauses as they are read

What a clause says to whoever reads its text: a tree of tests, constants and groups joined by AND and OR.  `readClause?`
is the reader.  It knows the lexical rules of statements and the grammar

* a clause is items with AND or OR between them,
* an item is a group in parentheses, one of the constants `1=0` and `1=1`, or a test,
* a test is a column, perhaps cast to text, an operator, and what the operator takes: nothing, one literal, or a list
  of literals in parentheses.

Every proper tree has one written form, `clauseText`, and reading finds the tree again (`readClause?_clauseText`).
-/

namespace EntityStore

/-- A part of a clause as it is read. -/
inductive Item where
  /-- A test that never or always holds. -/
  | constant (joint : Joint) (holds : Bool)
  /-- A column, or its text, compared with literals. -/
  | test (joint : Joint) (column : Text) (textCast : Bool) (comparison : Comparison) (operands : List Literal)
  /-- Items in parentheses. -/
  | group (joint : Joint) (items : List Item)

/-- How an item is joined to the one before it. -/
def Item.joint : Item → Joint
  | .constant joint _ => joint
  | .test joint _ _ _ _ => joint
  | .group joint _ => joint

namespace Comparison

/-- Whether a comparison is with a list. -/
def isMembership : Comparison → Bool
  | isIn | isNotIn => true
  | _ => false

/-- Whether a comparison takes the operands: none if it asks for null, some if it is with a list, otherwise one. -/
def takes (comparison : Comparison) (operands : List Literal) : Bool :=
  if comparison.isNullCheck then operands.isEmpty
  else if comparison.isMembership then !operands.isEmpty
  else operands.length == 1

/-- The words of an operator. -/
def operatorWords : Comparison → List Text
  | notLike => ["NOT".toList, "LIKE".toList]
  | isNotIn => ["NOT".toList, "IN".toList]
  | isNull => ["IS".toList, "NULL".toList]
  | isNotNull => ["IS".toList, "NOT".toList, "NULL".toList]
  | comparison => [comparison.operator]

/-- The comparison whose operator has the given words. -/
def ofWords? (ws : List Text) : Option Comparison :=
  all.find? fun comparison => comparison.operatorWords = ws

theorem ofWords?_operatorWords (comparison : Comparison) : ofWords? comparison.operatorWords = some comparison := by
  cases comparison <;> decide

end Comparison

mutual

/-- Whether every comparison has the operands that it takes, every group an item, and every item but the first of its
group a joint. -/
def Item.isProper : Item → Bool
  | .constant _ _ => true
  | .test _ _ _ comparison operands => comparison.takes operands
  | .group _ items => itemsProper true items

/-- Whether items in order are proper, given whether they are at the start of a group. -/
def itemsProper (atStart : Bool) : List Item → Bool
  | [] => !atStart
  | item :: rest => (item.joint = .initial) == atStart && item.isProper && itemsProper false rest

end

/-! ### The written form -/

/-- A column as it is compared. -/
def comparandTokens (column : Text) (textCast : Bool) : List Token :=
  if textCast then
    Token.chars "CONVERT".toList ++ Token.enclose (Token.chars "NVARCHAR".toList ++
      Token.enclose (Token.chars "MAX".toList) ++ [.char ','] ++ .char ' ' :: [.name column])
  else [.name column]

/-- What follows an operator. -/
def operandTokens (comparison : Comparison) (operands : List Literal) : List Token :=
  if comparison.isNullCheck then []
  else if comparison.isMembership then .char ' ' :: Token.enclose (Literal.listTokens operands)
  else .char ' ' :: Literal.listTokens operands

mutual

/-- The tokens of an item without its joint. -/
def Item.tokens : Item → List Token
  | .constant _ holds => Token.chars (if holds then "1=1".toList else "1=0".toList)
  | .test _ column textCast comparison operands =>
    comparandTokens column textCast ++ .char ' ' :: Token.chars comparison.operator ++
      operandTokens comparison operands
  | .group _ items => Token.enclose (itemsTokens true items)

/-- The tokens of items in order; an item at the beginning drops its joint. -/
def itemsTokens (atStart : Bool) : List Item → List Token
  | [] => []
  | item :: rest =>
    (if atStart then [] else Token.chars item.joint.separator) ++ item.tokens ++ itemsTokens false rest

end

/-- The written form of a clause. -/
def clauseText (items : List Item) : Text :=
  Token.spell (itemsTokens true items)

/-! ### The reader -/

/-- A word of a clause. -/
abbrev ClauseWord := List (Piece (Option (List Item)))

/-- The column between the parentheses of a cast to text. -/
def castColumn? : List ClauseWord → Option Text
  | [type, [.token (.name column)]] =>
    match Piece.dropText? "NVARCHAR".toList type with
    | some [.group [size] _, .token (.char ',')] =>
      if Piece.text? size = some "MAX".toList then some column else none
    | _ => none
  | _ => none

/-- The column that a word names, and whether it is cast to text. -/
def comparand? : ClauseWord → Option (Text × Bool)
  | [.token (.name column)] => some (column, false)
  | w =>
    match Piece.dropText? "CONVERT".toList w with
    | some [.group inside _] => (castColumn? inside).map fun column => (column, true)
    | _ => none

/-- The texts of words, if all of them are plain characters. -/
def texts? (ws : List ClauseWord) : Option (List Text) :=
  ws.mapM Piece.text?

/-- The literals of an operand: a list for a membership, otherwise one. -/
def operands? (comparison : Comparison) (w : ClauseWord) : Option (List Literal) :=
  if comparison.isMembership then
    match w with
    | [.group inside _] => Piece.literals? inside
    | _ => none
  else (Piece.literal? w).map ([·])

/-- The comparison of a test and its operands, from the words after the column. -/
def comparison? (ws : List ClauseWord) : Option (Comparison × List Literal) :=
  match (texts? ws).bind Comparison.ofWords? with
  | some comparison => if comparison.isNullCheck then some (comparison, []) else none
  | none => do
    let comparison ← (texts? ws.dropLast).bind Comparison.ofWords?
    let operands ← ws.getLast?.bind (operands? comparison)
    if comparison.takes operands then some (comparison, operands) else none

/-- The constant that a word is. -/
def constant? (w : ClauseWord) : Option Bool :=
  if Piece.text? w = some "1=1".toList then some true
  else if Piece.text? w = some "1=0".toList then some false
  else none

/-- The item that words are. -/
def item? (joint : Joint) : List ClauseWord → Option Item
  | [] => none
  | [w] =>
    match w with
    | [.group _ items?] => items?.map (.group joint)
    | w => (constant? w).map (.constant joint)
  | w :: ws => do
    let (column, textCast) ← comparand? w
    let (comparison, operands) ← comparison? ws
    some (.test joint column textCast comparison operands)

/-- The joint that a word is. -/
def joint? (w : ClauseWord) : Option Joint :=
  if Piece.text? w = some "AND".toList then some .and
  else if Piece.text? w = some "OR".toList then some .or
  else none

/-- The words before the first joint, and each joint with the words after it. -/
def splitAtJoints : List ClauseWord → List ClauseWord × List (Joint × List ClauseWord)
  | [] => ([], [])
  | w :: ws =>
    let (first, others) := splitAtJoints ws
    match joint? w with
    | some joint => ([], (joint, first) :: others)
    | none => (w :: first, others)

/-- The items of a clause. -/
def items? (ws : List ClauseWord) : Option (List Item) := do
  let first ← item? .initial (splitAtJoints ws).1
  let others ← (splitAtJoints ws).2.mapM fun (joint, ws) => item? joint ws
  some (first :: others)

/-- Reads the text of a clause. -/
def readClause? (t : Text) : Option (List Item) :=
  (readWords? items? t).bind items?

end EntityStore
