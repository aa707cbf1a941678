import EntityStore.Proofs.Query.Formula
import EntityStore.Proofs.Query.Item

/-!
# Conditions evaluated on a row

What conditions say about one row, in the logic of SQL with its third truth value: a comparison with null is neither
true nor false but unknown, and AND, OR and NOT pass that on.  Clauses and predicates are evaluated as they are read, so
that a meaning is given to their texts.

A valuation stands for the row.  It says which values the columns have and which literals a value equals, and what is
not looked into here: other tests than memberships, and other operations than logical ones.
-/

namespace EntityStore

/-- A truth value. -/
inductive Truth where
  | fails
  | unknown
  | holds
  deriving DecidableEq

namespace Truth

def ofBool (b : Bool) : Truth :=
  if b then holds else fails

def not : Truth → Truth
  | fails => holds
  | unknown => unknown
  | holds => fails

def and : Truth → Truth → Truth
  | fails, _ => fails
  | holds, t => t
  | unknown, fails => fails
  | unknown, _ => unknown

def or : Truth → Truth → Truth
  | holds, _ => holds
  | fails, t => t
  | unknown, holds => holds
  | unknown, _ => unknown

/-- Truth values with OR between them. -/
def any (ts : List Truth) : Truth :=
  ts.foldr or fails

/-- Truth values with AND between them. -/
def all (ts : List Truth) : Truth :=
  ts.foldr and holds

@[simp]
theorem or_fails (t : Truth) : t.or fails = t := by
  cases t <;> rfl

@[simp]
theorem and_holds (t : Truth) : t.and holds = t := by
  cases t <;> rfl

theorem or_assoc (t u v : Truth) : (t.or u).or v = t.or (u.or v) := by
  cases t <;> cases u <;> cases v <;> rfl

theorem and_assoc (t u v : Truth) : (t.and u).and v = t.and (u.and v) := by
  cases t <;> cases u <;> cases v <;> rfl

theorem not_or (t u : Truth) : (t.or u).not = t.not.and u.not := by
  cases t <;> cases u <;> rfl

theorem not_any (ts : List Truth) : (any ts).not = all (ts.map not) := by
  induction ts with
  | nil => rfl
  | cons t ts ih =>
    rw [any, List.foldr_cons, not_or, ← any, ih]
    rfl

theorem any_append (ts us : List Truth) : any (ts ++ us) = (any ts).or (any us) := by
  induction ts with
  | nil => rfl
  | cons t ts ih =>
    rw [List.cons_append, any, List.foldr_cons, ← any, ih, ← or_assoc]
    rfl

/-- A disjunction may be cut into disjunctions anywhere. -/
theorem any_flatten (lists : List (List Truth)) : any lists.flatten = any (lists.map any) := by
  induction lists with
  | nil => rfl
  | cons ts lists ih =>
    rw [List.flatten_cons, any_append, ih]
    rfl

end Truth

/-- What a row says to the parts of a condition. -/
structure Valuation (α : Type) where
  /-- Whether a value equals a literal. -/
  equals : α → Literal → Bool
  /-- The value of a column, or of its text if it is cast; null is no value. -/
  cell : Text → Bool → Option α
  /-- The value of an operand in a predicate. -/
  operand : Formula → Option α
  /-- What a test other than a membership says of a cell. -/
  test : Comparison → Option α → List Literal → Truth
  /-- What an operation says that is neither logical nor a membership. -/
  operation : Formula → Truth

namespace Valuation

variable {α : Type}

/-- A value, or null, compared with a literal. -/
def compare (ν : Valuation α) (x : Option α) (l : Literal) : Truth :=
  match x with
  | none => .unknown
  | some a => .ofBool (ν.equals a l)

/-- A value, or null, tested against a list of literals: it equals one of them. -/
def isOneOf (ν : Valuation α) (x : Option α) (ls : List Literal) : Truth :=
  .any (ls.map (ν.compare x))

mutual

/-- What an item says. -/
def item (ν : Valuation α) : Item → Truth
  | .constant _ holds => .ofBool holds
  | .test _ column textCast comparison operands =>
    match comparison with
    | .isIn => ν.isOneOf (ν.cell column textCast) operands
    | .isNotIn => (ν.isOneOf (ν.cell column textCast) operands).not
    | comparison => ν.test comparison (ν.cell column textCast) operands
  | .group _ items => ν.itemsFrom .fails .holds items

/-- What items in order say.  AND binds stronger than OR: `before` holds what stands before the last OR, and `current`
what stands after it. -/
def itemsFrom (ν : Valuation α) (before current : Truth) : List Item → Truth
  | [] => before.or current
  | item :: rest =>
    if item.joint = .or then ν.itemsFrom (before.or current) (ν.item item) rest
    else ν.itemsFrom before (current.and (ν.item item)) rest

end

/-- What a clause says. -/
def clause (ν : Valuation α) (items : List Item) : Truth :=
  ν.itemsFrom .fails .holds items

mutual

/-- What a predicate says. -/
def formula (ν : Valuation α) : Formula → Truth
  | .never => .fails
  | .not f => (ν.formula f).not
  | .binary .andAlso left right => (ν.formula left).and (ν.formula right)
  | .binary .orElse left right => (ν.formula left).or (ν.formula right)
  | .anyIn tests => ν.memberships tests
  | f => ν.operation f

/-- What memberships with OR between them say. -/
def memberships (ν : Valuation α) : Memberships → Truth
  | .one item literals => ν.isOneOf (ν.operand item) literals
  | .or item literals rest => (ν.isOneOf (ν.operand item) literals).or (ν.memberships rest)

end

/-! ### Memberships -/

variable {ν : Valuation α} {x : Option α}

theorem isOneOf_flatten (lists : List (List Literal)) :
    ν.isOneOf x lists.flatten = .any (lists.map (ν.isOneOf x)) := by
  rw [isOneOf, List.map_flatten, Truth.any_flatten, List.map_map]
  rfl

theorem isOneOf_some (a : α) (ls : List Literal) : ν.isOneOf (some a) ls = .ofBool (ls.any (ν.equals a)) := by
  induction ls with
  | nil => rfl
  | cons l ls ih =>
    have hcons : ν.isOneOf (some a) (l :: ls) = (Truth.ofBool (ν.equals a l)).or (ν.isOneOf (some a) ls) := rfl
    rw [hcons, ih, List.any_cons]
    cases ν.equals a l <;> rfl

theorem isOneOf_none (ls : List Literal) : ν.isOneOf none ls = if ls = [] then .fails else .unknown := by
  induction ls with
  | nil => rfl
  | cons l ls ih =>
    have hcons : ν.isOneOf none (l :: ls) = Truth.unknown.or (ν.isOneOf none ls) := rfl
    rw [hcons, ih, if_neg (List.cons_ne_nil l ls)]
    split <;> rfl

/-- A membership holds for a value that equals one of the literals. -/
theorem isOneOf_eq_holds_iff {ls : List Literal} :
    ν.isOneOf x ls = .holds ↔ ∃ a, x = some a ∧ ∃ l ∈ ls, ν.equals a l = true := by
  cases x with
  | none =>
    rw [isOneOf_none]
    split <;> simp
  | some a =>
    rw [isOneOf_some]
    cases hany : ls.any (ν.equals a) <;> simpa [Truth.ofBool] using hany

/-- Whether null is one of some literals is unknown. -/
theorem isOneOf_eq_unknown_iff {ls : List Literal} : ν.isOneOf x ls = .unknown ↔ x = none ∧ ls ≠ [] := by
  cases x with
  | none =>
    rw [isOneOf_none]
    split <;> simp [*]
  | some a =>
    rw [isOneOf_some]
    cases ls.any (ν.equals a) <;> simp [Truth.ofBool]

/-! ### Items with one joint between them -/

variable {β : Type} {f : β → Item}

theorem itemsFrom_or (h : ∀ b, (f b).joint = .or) (before current : Truth) (bs : List β) :
    ν.itemsFrom before current (bs.map f) = before.or (current.or (.any (bs.map fun b => ν.item (f b)))) := by
  induction bs generalizing before current with
  | nil =>
    rw [List.map_nil, List.map_nil, itemsFrom]
    exact congrArg _ (Truth.or_fails current).symm
  | cons b bs ih =>
    rw [List.map_cons, itemsFrom, if_pos (h b), ih, Truth.or_assoc]
    rfl

theorem itemsFrom_and (h : ∀ b, (f b).joint ≠ .or) (before current : Truth) (bs : List β) :
    ν.itemsFrom before current (bs.map f) = before.or (current.and (.all (bs.map fun b => ν.item (f b)))) := by
  induction bs generalizing current with
  | nil =>
    rw [List.map_nil, List.map_nil, itemsFrom]
    exact congrArg _ (Truth.and_holds current).symm
  | cons b bs ih =>
    rw [List.map_cons, itemsFrom, if_neg (h b), ih, Truth.and_assoc]
    rfl

end Valuation

end EntityStore
