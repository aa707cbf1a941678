import EntityStore.Entity.Column
import EntityStore.Query.Condition

/-!
# Clauses

A clause is built step by step from conditions joined by AND and OR, with groups inside groups.  A step that cannot
be made is recorded, and from then on the clause changes no more; its text is then the first failure.

A clause under way is a list of finished links and a stack of groups that are still open, the innermost first.  All
lists of links are kept in the order in which the links were made.
-/

namespace EntityStore

/-- How a link is joined to what stands before it. -/
inductive Joint where
  | initial
  | and
  | or
  deriving DecidableEq, Repr

/-- What stands between a link and the one before it. -/
def Joint.separator : Joint → Text
  | .initial => []
  | .and => " AND ".toList
  | .or => " OR ".toList

/-- A part of a clause: a condition or a group, with its joint. -/
inductive Link where
  | condition (joint : Joint) (c : Condition)
  | group (joint : Joint) (links : List Link)

/-- How a link is joined to the one before it. -/
def Link.joint : Link → Joint
  | .condition joint _ => joint
  | .group joint _ => joint

mutual

/-- The text of a link without its joint. -/
def Link.body : Link → Text
  | .condition _ c => c.sql
  | .group _ links => '(' :: linksText true links ++ [')']

/-- The text of links in order; a link at the beginning drops its joint. -/
def linksText (atStart : Bool) : List Link → Text
  | [] => []
  | link :: rest =>
    (if atStart then [] else link.joint.separator) ++ link.body ++ linksText false rest

end

/-- A group under way: how it will be joined, and its links so far. -/
structure OpenGroup where
  joint : Joint
  links : List Link

/-- A clause under way. -/
structure Clause where
  /-- The columns whose types are known. -/
  columns : List Column := []
  links : List Link := []
  /-- The groups that are still open, the innermost first. -/
  groups : List OpenGroup := []
  /-- The first failure. -/
  error? : Option Error := none

/-- A step in building a clause. -/
inductive Step where
  | condition (joint : Joint) (column : Text) (comparison : Comparison) (value? : Option Value)
  | beginGroup (joint : Joint) (column : Text) (comparison : Comparison) (value? : Option Value)
  | endGroup

namespace Clause

/-- The number of groups still open. -/
def openGroups (w : Clause) : Nat :=
  w.groups.length

/-- Whether nothing was built yet. -/
def isEmpty (w : Clause) : Bool :=
  w.links.isEmpty && w.groups.isEmpty

/-- The condition of a step.  The column is cast to text if it is declared so or if the value is a document. -/
def conditionOf (w : Clause) (column : Text) (comparison : Comparison) (value? : Option Value) :
    Except Error Condition :=
  let declared := (findColumn? w.columns column).any Column.needsTextCast
  Condition.make column comparison value? (declared || value?.any Value.isXml)

/-- Puts a link after those of the innermost group. -/
def push (w : Clause) (link : Link) : Clause :=
  match w.groups with
  | [] => { w with links := w.links ++ [link] }
  | g :: outer => { w with groups := { g with links := g.links ++ [link] } :: outer }

/-- Makes one step. -/
def step (w : Clause) (s : Step) : Clause :=
  if w.error?.isSome then w
  else
    match s with
    | .condition joint column comparison value? =>
      match w.conditionOf column comparison value? with
      | .ok c => w.push (.condition joint c)
      | .error e => { w with error? := some e }
    | .beginGroup joint column comparison value? =>
      match w.conditionOf column comparison value? with
      | .ok c => { w with groups := ⟨joint, [.condition .initial c]⟩ :: w.groups }
      | .error e => { w with error? := some e }
    | .endGroup =>
      match w.groups with
      | g :: outer => { w with groups := outer }.push (.group g.joint g.links)
      | [] => { w with error? := some .unbalancedGroup }

/-- Makes steps in order. -/
def run (w : Clause) (steps : List Step) : Clause :=
  steps.foldl step w

/-- The text of a clause: its first failure if there is one, and none while groups are open. -/
def toText (w : Clause) : Except Error Text :=
  match w.error? with
  | some e => .error e
  | none =>
    match w.groups with
    | [] => .ok (linksText true w.links)
    | groups => .error (.unclosedGroup groups.length)

end Clause

end EntityStore
