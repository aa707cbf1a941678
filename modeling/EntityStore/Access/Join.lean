import EntityStore.Access.Repository

/-!
# Joins

A chain of entities, each joined to those before it by a predicate.  The members of a chain have the aliases `c0`,
`c1` and so on, and predicates speak of them as the parameters `p0`, `p1` and so on.  Every column is selected under
the name of its entity and its own name, so that each member of a row is read back from its own cells.
-/

namespace EntityStore

/-- How a member of a chain is joined to those before it. -/
inductive JoinKind where
  | inner
  | left
  | right
  | full
  deriving DecidableEq, Repr

/-- The words that join two tables. -/
def JoinKind.keyword : JoinKind → Text
  | inner => "INNER JOIN".toList
  | left => "LEFT OUTER JOIN".toList
  | right => "RIGHT OUTER JOIN".toList
  | full => "FULL OUTER JOIN".toList

/-- The alias of a member of a chain. -/
def memberAlias (index : Nat) : Text :=
  'c' :: Text.ofNat index

/-- What stands between the name of an entity and that of a column in a label. -/
def labelSeparator : Text := "__".toList

/-- The mark with which the labels of an entity start. -/
def Entity.labelMark (e : Entity) : Text :=
  e.name ++ labelSeparator

/-- The members of a chain that a predicate may speak of, the one being joined last. -/
structure JoinScope where
  members : List Entity

namespace JoinScope

/-- The parameter for the member at a position.  Beyond the chain it has no columns. -/
def at? (scope : JoinScope) (index : Nat) : Param :=
  match scope.members[index]? with
  | some e => ⟨index, e.name, e.columns⟩
  | none => ⟨index, "<out of range>".toList, []⟩

/-- The position of the last member of an entity.  A member is of the entity if it is described alike. -/
def lastIndex? (scope : JoinScope) (e : Entity) : Option Nat :=
  (scope.members.reverse.findIdx? (· = e)).map fun i => scope.members.length - 1 - i

/-- The parameter for the last member of an entity.  If there is none it has no columns. -/
def ofEntity (scope : JoinScope) (e : Entity) : Param :=
  match scope.lastIndex? e with
  | some index => scope.at? index
  | none => ⟨scope.members.length, e.name, []⟩

/-- The parameter for the member being joined. -/
def last (scope : JoinScope) : Param :=
  scope.at? (scope.members.length - 1)

/-- The aliases of all members, under the names of their parameters. -/
def aliases (scope : JoinScope) : Aliases :=
  (List.range scope.members.length).map fun i => ('p' :: Text.ofNat i, memberAlias i)

end JoinScope

/-- A member of a chain after the first, with its alias and its predicate. -/
structure JoinStep where
  entity : Entity
  kind : JoinKind
  tableAlias : Text
  on : Text
  aliases : Aliases

/-- A chain of joins.  The first predicate that has no text is kept as the failure of the whole chain. -/
structure JoinChain where
  root : Entity
  steps : List JoinStep := []
  error? : Option Error := none

namespace JoinChain

/-- The members of a chain in order. -/
def members (chain : JoinChain) : List Entity :=
  chain.root :: chain.steps.map JoinStep.entity

/-- Joins one more entity.  After a failure the predicates of later joins are left empty. -/
def join (chain : JoinChain) (kind : JoinKind) (e : Entity) (predicate : JoinScope → Expr) : JoinChain :=
  let scope : JoinScope := ⟨chain.members ++ [e]⟩
  let step (on : Text) : JoinStep := ⟨e, kind, memberAlias (chain.steps.length + 1), on, scope.aliases⟩
  match chain.error? with
  | some _ => { chain with steps := chain.steps ++ [step []] }
  | none =>
    match (predicate scope).predicateText scope.aliases with
    | .ok on => { chain with steps := chain.steps ++ [step on] }
    | .error error => { chain with steps := chain.steps ++ [step []], error? := some error }

/-- The label of a column of an entity. -/
def label (e : Entity) (c : Column) : Text :=
  e.labelMark ++ c.name

/-- The selected columns of the member at a position. -/
def selectedColumns (index : Nat) (e : Entity) : List Text :=
  e.columns.map fun c =>
    Text.bracketColumn (some (memberAlias index)) c.name ++ " AS ".toList ++ Text.quote (label e c)

/-- The selected columns of members, the first of which stands at the given position. -/
def selectList (index : Nat) : List Entity → List Text
  | [] => []
  | e :: rest => selectedColumns index e ++ selectList (index + 1) rest

/-- The text of a join. -/
def stepText (step : JoinStep) : Text :=
  ' ' :: step.kind.keyword ++ ' ' :: step.entity.tableText ++ ' ' :: step.tableAlias ++ " ON ".toList ++ step.on

/-- The statement of a chain. -/
def sql (chain : JoinChain) : Except Error Text :=
  match chain.error? with
  | some e => .error e
  | none =>
    .ok ("SELECT ".toList ++ Text.joinWith ", ".toList (selectList 0 chain.members) ++ " FROM ".toList ++
      chain.root.tableText ++ ' ' :: memberAlias 0 ++ chain.steps.flatMap stepText)

end JoinChain

/-- An entity with one of its records. -/
structure Member where
  entity : Entity
  record : Record

/-- A row of a join: a place for each member of the chain, empty once the member was taken. -/
structure JoinedRow where
  places : List (Option Member)

namespace JoinedRow

/-- The number of places. -/
def length (row : JoinedRow) : Nat :=
  row.places.length

/-- The record of a member if it is of the given entity.  Entities have no identity beside their description, so the
record is found under every entity that is described alike. -/
def recordOf? (e : Entity) (member : Member) : Option Record :=
  if member.entity = e then some member.record else none

/-- The record at a position, if one of the given entity is there. -/
def get? (row : JoinedRow) (e : Entity) (index : Nat) : Option Record :=
  row.places[index]?.join.bind (recordOf? e)

/-- The first record of an entity. -/
def first? (row : JoinedRow) (e : Entity) : Option Record :=
  row.places.findSome? fun place => place.bind (recordOf? e)

/-- Moves a record out of its place, if one of the given entity is there. -/
def take? (row : JoinedRow) (e : Entity) (index : Nat) : Option Record × JoinedRow :=
  match row.get? e index with
  | some record => (some record, ⟨row.places.set index none⟩)
  | none => (none, row)

end JoinedRow

namespace JoinChain

/-- Reads all members of a chain from a row. -/
def readRow (chain : JoinChain) (row : Row) : Except Error JoinedRow :=
  let places := chain.members.mapM fun (e : Entity) =>
    (e.readRecord row e.labelMark).map fun record => some (Member.mk e record)
  places.map JoinedRow.mk

/-- Runs the statement of a chain. -/
def read (chain : JoinChain) : Action (List JoinedRow) := do
  let sql ← Action.ofExcept chain.sql
  match ← Action.query sql [] with
  | none => pure []
  | some rows => Action.ofExcept (rows.mapM chain.readRow)

end JoinChain

end EntityStore
