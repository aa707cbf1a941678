import EntityStore.Proofs.Query.Batches
import EntityStore.Proofs.Query.ClauseReading
import EntityStore.Proofs.Query.Evaluation
import EntityStore.Proofs.Query.PredicateReading

/-!
# Memberships mean the same in batches

A membership in a long list is written as several tests, joined by OR, and its negation as several negated tests,
joined by AND.  Evaluated on any row, both say what one test against the literals of all leaves would say
(`Valuation.membership_batched`): that the value equals one of them, that it does not, or, for null, that this is
unknown.  Of the empty list nothing is a member, null included.

The texts of the conditions and of the predicates are evaluated as they are read, so that nothing is lost between a
list and its meaning.
-/

namespace EntityStore

/-! ### The meaning of batches -/

namespace Valuation

variable {α : Type} {ν : Valuation α}

private theorem joint_batchItem (column : Text) (textCast negated : Bool) (joint : Joint) (batch : List Literal) :
    (batchItem column textCast negated joint batch).joint = joint := rfl

private theorem item_batchItem (column : Text) (textCast : Bool) (joint : Joint) (batch : List Literal) :
    ν.item (batchItem column textCast false joint batch) = ν.isOneOf (ν.cell column textCast) batch ∧
      ν.item (batchItem column textCast true joint batch) = (ν.isOneOf (ν.cell column textCast) batch).not :=
  ⟨rfl, rfl⟩

/-- The first item of a clause and those after it. -/
private theorem clause_cons {item : Item} (h : item.joint = .initial) (rest : List Item) :
    ν.clause (item :: rest) = ν.itemsFrom .fails (ν.item item) rest := by
  rw [clause, itemsFrom, h, if_neg (by decide)]
  rfl

/-- A membership in batches says what the membership in all their literals says. -/
theorem clause_membershipItem (column : Text) (textCast negated : Bool) (lists : List (List Literal)) :
    ν.clause [membershipItem .initial column textCast negated lists] =
      if negated then (ν.isOneOf (ν.cell column textCast) lists.flatten).not
      else ν.isOneOf (ν.cell column textCast) lists.flatten := by
  match lists with
  | [] => cases negated <;> rfl
  | [batch] =>
    rw [membershipItem, clause_cons rfl, itemsFrom, List.flatten_singleton]
    cases negated <;> rfl
  | first :: second :: rest =>
    -- the batches are a group, and the group says what a clause of them would say
    have hgroup (joint : Joint) : ν.clause [.group .initial (batchItem column textCast negated .initial first ::
        (second :: rest).map (batchItem column textCast negated joint))] =
          ν.itemsFrom .fails (ν.item (batchItem column textCast negated .initial first))
            ((second :: rest).map (batchItem column textCast negated joint)) := by
      rw [clause_cons rfl, itemsFrom, ← clause_cons (joint_batchItem ..)]
      rfl
    rw [membershipItem, hgroup, isOneOf_flatten]
    · cases negated with
      | false =>
        rw [if_neg (by decide), if_neg (by decide), itemsFrom_or (joint_batchItem column textCast false .or)]
        simp only [item_batchItem]
        rfl
      | true =>
        have hjoint (batch : List Literal) : (batchItem column textCast true .and batch).joint ≠ .or := by
          rw [joint_batchItem]
          decide
        rw [if_pos rfl, if_pos rfl, itemsFrom_and hjoint, Truth.not_any, List.map_map]
        simp only [item_batchItem]
        rfl
    · simp

/-- The same for the membership of an operand in a predicate. -/
theorem formula_membership (operand : Formula) (lists : List (List Literal)) :
    ν.formula (operand.membership lists) = ν.isOneOf (ν.operand operand) lists.flatten := by
  have hbatches (first : List Literal) (rest : List (List Literal)) :
      ν.memberships (.ofBatches operand first rest) =
        .any ((first :: rest).map (ν.isOneOf (ν.operand operand))) := by
    induction rest generalizing first with
    | nil => exact (Truth.or_fails _).symm
    | cons second rest ih =>
      rw [Memberships.ofBatches, memberships, ih]
      rfl
  cases lists with
  | nil => rfl
  | cons first rest =>
    rw [isOneOf_flatten, ← hbatches]
    rfl

end Valuation

/-! ### Conditions and predicates on lists -/

/-- A membership in a value all of whose leaves have literals is a condition, and reads as its batches. -/
private theorem exists_membership {v : Value} {lists : List (List Literal)} (hlists : v.tokenBatches? = some lists)
    (h : ∀ leaf ∈ v.leaves, ∃ t, leaf.literal = .ok t) (column : Text) (textCast negated : Bool) :
    ∃ c, Condition.make column (if negated then .isNotIn else .isIn) (some v) textCast = .ok c ∧
      readClause? c.sql = some [membershipItem .initial column textCast negated lists] := by
  have hfault : (if negated then Comparison.isNotIn else .isIn).fault? column (some v) = none := by
    have hleaves : v.leaves.findSome? Value.literalFault? = none := by
      rw [List.findSome?_eq_none_iff]
      intro leaf hleaf
      rw [← Value.failure?_literal, failure?_eq_none_iff]
      exact h leaf hleaf
    cases negated <;> exact hleaves
  rw [← Condition.failure?_make _ _ _ textCast, failure?_eq_none_iff] at hfault
  obtain ⟨c, hc⟩ := hfault
  obtain ⟨item, hitem, hread⟩ := Condition.exists_readClause?_sql hc
  obtain ⟨hcolumn, hcomparison, hcast, hvalue⟩ := Condition.parts_of_make hc
  have hused : c.value? = some v := by
    cases negated <;> exact (Except.ok.inj hvalue).symm
  rw [Condition.item?, hused, hcomparison, hcolumn, hcast] at hitem
  have hbatches : v.tokenBatches?.map (membershipItem .initial column textCast negated) = some item := by
    cases negated <;> exact hitem
  rw [hlists, Option.map_some] at hbatches
  obtain rfl := Option.some.inj hbatches
  exact ⟨c, hc, hread⟩

/-- The ways to write the membership of a column in a list. -/
def Expr.memberships (param? : Option Text) (column : Text) (type? : Option ScalarType) (items : List Value) :
    List Expr :=
  [.isIn (.column param? column type?) (.list items),
    .call containsName [.constant (.list items), .column param? column type?]]

/-- A predicate that asks for a member reads as the membership of the column, whatever the type of the column is. -/
private theorem exists_read?_memberships {items : List Value} {lists : List (List Literal)}
    (hlists : (Value.list items).tokenBatches? = some lists) {batches : List Text}
    (hbatches : (Value.list items).literalBatches = .ok batches) (aliases : Aliases) (param? : Option Text)
    (column : Text) (type? : Option ScalarType) {e : Expr} (he : e ∈ Expr.memberships param? column type? items) :
    ∃ t, e.text aliases = .ok t ∧
      Formula.read? t = some (.membership (.column [] (param?.bind aliases.find?) column []) lists) := by
  have hcolumn : Role.operand.column (param?.bind aliases.find?) column type? =
      .column [] (param?.bind aliases.find?) column [] := by
    by_cases hbool : type? = some .bool <;> simp [Role.column, Role.truthValue, hbool]
  have htext : ∃ t, e.text aliases = .ok t := by
    have hmembership (col : Text) : ∃ t, membershipText col items = .ok t := by
      rw [membershipText, hbatches]
      exact ⟨_, rfl⟩
    rcases List.mem_pair.mp he with rfl | rfl
    · exact hmembership _
    · exact hmembership _
  have hformula : e.formula? aliases .alone =
      some (.membership (.column [] (param?.bind aliases.find?) column []) lists) := by
    have hvalues : Formula.inValues? items (Role.operand.column (param?.bind aliases.find?) column type?) =
        some (.membership (.column [] (param?.bind aliases.find?) column []) lists) := by
      rw [Formula.inValues?, hlists, hcolumn, Option.map_some]
    rcases List.mem_pair.mp he with rfl | rfl
    · exact hvalues
    · exact hvalues
  obtain ⟨t, ht⟩ := htext
  exact ⟨t, ht, Expr.read?_of_text ht hformula⟩

namespace Valuation

variable {α : Type}

private theorem mem_iff_of_standsFor {ls : List Literal} {leaves : List Value}
    (h : List.Forall₂ Value.StandsFor ls leaves) (l : Literal) :
    l ∈ ls ↔ ∃ leaf ∈ leaves, Value.StandsFor l leaf := by
  induction h with
  | nil => simp
  | @cons l' leaf ls leaves hl _ ih =>
    -- a value has one literal only
    have hsame : l = l' ↔ Value.StandsFor l leaf := by
      rw [Value.standsFor_iff] at hl ⊢
      rw [hl, Option.some.injEq]
      exact eq_comm
    rw [List.mem_cons, ih, hsame]
    simp

/-- Membership in a list all of whose leaves have literals, whether the list is written as a condition or in a
predicate, says that a value is one of the leaves; the condition of the opposite says the negation. -/
theorem membership_batched (ν : Valuation α) (column : Text) (textCast : Bool) (aliases : Aliases)
    (param? : Option Text) (type? : Option ScalarType) (items : List Value)
    (h : ∀ leaf ∈ (Value.list items).leaves, ∃ t, leaf.literal = .ok t) :
    ∃ ls : List Literal, List.Forall₂ Value.StandsFor ls (Value.list items).leaves ∧
      (∃ c tree, Condition.make column .isIn (some (.list items)) textCast = .ok c ∧
        readClause? c.sql = some tree ∧ ν.clause tree = ν.isOneOf (ν.cell column textCast) ls) ∧
      (∃ c tree, Condition.make column .isNotIn (some (.list items)) textCast = .ok c ∧
        readClause? c.sql = some tree ∧ ν.clause tree = (ν.isOneOf (ν.cell column textCast) ls).not) ∧
      (∀ e ∈ Expr.memberships param? column type? items, ∃ t f, e.text aliases = .ok t ∧
        Formula.read? t = some f ∧
          ν.formula f = ν.isOneOf (ν.operand (.column [] (param?.bind aliases.find?) column [])) ls) ∧
      ∀ x : Option α,
        (ν.isOneOf x ls = .holds ↔ ∃ a, x = some a ∧ ∃ leaf ∈ (Value.list items).leaves,
          ∃ l, Value.StandsFor l leaf ∧ ν.equals a l = true) ∧
        (ν.isOneOf x ls = .unknown ↔ x = none ∧ (Value.list items).leaves ≠ []) ∧
        ((Value.list items).leaves = [] → ν.isOneOf x ls = .fails) := by
  have hbatches : ∃ batches, (Value.list items).literalBatches = .ok batches := by
    rw [Value.exists_literalBatches_iff]
    intro path leaf hleaf
    exact h leaf (Value.mem_leaves_iff.mpr ⟨path, hleaf⟩)
  obtain ⟨batches, hbatches⟩ := hbatches
  obtain ⟨lists, hlists, -, -⟩ := Value.exists_tokenBatches hbatches
  have hleaves := Value.standsFor_tokenBatches hlists
  have hnil : lists.flatten = [] ↔ (Value.list items).leaves = [] := by
    rw [← List.length_eq_zero_iff, hleaves.length_eq, List.length_eq_zero_iff]
  refine ⟨lists.flatten, hleaves, ?_, ?_, fun e he => ?_, fun x => ⟨?_, ?_, fun hempty => ?_⟩⟩
  · obtain ⟨c, hc, hread⟩ := exists_membership hlists h column textCast false
    exact ⟨c, _, hc, hread, clause_membershipItem column textCast false lists⟩
  · obtain ⟨c, hc, hread⟩ := exists_membership hlists h column textCast true
    exact ⟨c, _, hc, hread, clause_membershipItem column textCast true lists⟩
  · obtain ⟨t, ht, hread⟩ := exists_read?_memberships hlists hbatches aliases param? column type? he
    exact ⟨t, _, ht, hread, formula_membership _ lists⟩
  · rw [isOneOf_eq_holds_iff]
    simp only [mem_iff_of_standsFor hleaves]
    constructor
    · rintro ⟨a, rfl, l, ⟨leaf, hleaf, hl⟩, hequals⟩
      exact ⟨a, rfl, leaf, hleaf, l, hl, hequals⟩
    · rintro ⟨a, rfl, leaf, hleaf, l, hl, hequals⟩
      exact ⟨a, rfl, l, ⟨leaf, hleaf, hl⟩, hequals⟩
  · rw [isOneOf_eq_unknown_iff, ne_eq, hnil]
  · rw [hnil.mpr hempty]
    rfl

/-- Two thousand numbers in a list of their own fill one batch, so that the string after them is the second one. -/
theorem membership_batched_boundary :
    let items : List Value := [.list (List.replicate 2000 (.int 1)), .string "a', 'b".toList]
    let ν : Valuation Literal := ⟨fun a l => a = l, fun _ _ => some (.string "a', 'b".toList), fun _ => none,
      fun _ _ _ => .unknown, fun _ => .unknown⟩
    (∀ leaf ∈ (Value.list items).leaves, ∃ t, leaf.literal = .ok t) ∧
      (∃ c tree, Condition.make "Name".toList .isIn (some (.list items)) false = .ok c ∧
        readClause? c.sql = some tree ∧ ν.clause tree = .holds) ∧
      (∃ c tree, Condition.make "Name".toList .isNotIn (some (.list items)) false = .ok c ∧
        readClause? c.sql = some tree ∧ ν.clause tree = .fails) ∧
      ∀ e ∈ Expr.memberships none "Name".toList none items, ∃ t f, e.text [] = .ok t ∧ Formula.read? t = some f ∧
        ν.formula f = .unknown := by
  intro items ν
  have hleaves : (Value.list items).leaves = List.replicate 2000 (.int 1) ++ [.string "a', 'b".toList] := by
    have hnumbers (n : Nat) : Value.leavesOf (List.replicate n (.int 1)) = List.replicate n (.int 1) := by
      induction n with
      | zero => rfl
      | succ n ih =>
        rw [List.replicate_succ, Value.leavesOf, ih]
        rfl
    rw [Value.leaves, Value.leavesOf, Value.leaves, hnumbers]
    rfl
  have hliteral : ∀ leaf ∈ (Value.list items).leaves, ∃ t, leaf.literal = .ok t := by
    intro leaf hleaf
    rw [hleaves, List.mem_append] at hleaf
    rcases hleaf with hleaf | hleaf
    · rw [List.eq_of_mem_replicate hleaf]
      exact ⟨_, rfl⟩
    · rw [List.mem_singleton.mp hleaf]
      exact ⟨_, rfl⟩
  obtain ⟨ls, -, ⟨c, tree, hc, htree, hin⟩, ⟨c', tree', hc', htree', hnotIn⟩, hpredicates, hmeaning⟩ :=
    membership_batched ν "Name".toList false [] none none items hliteral
  have hholds : ν.isOneOf (ν.cell "Name".toList false) ls = .holds := by
    refine (hmeaning _).1.mpr ⟨_, rfl, .string "a', 'b".toList, ?_, _, ⟨rfl, rfl⟩, decide_eq_true rfl⟩
    rw [hleaves]
    exact List.mem_append_right _ (List.mem_singleton_self _)
  refine ⟨hliteral, ⟨c, tree, hc, htree, hin.trans hholds⟩, ⟨c', tree', hc', htree', ?_⟩, fun e he => ?_⟩
  · rw [hnotIn, hholds]
    rfl
  · obtain ⟨t, f, ht, hf, hformula⟩ := hpredicates e he
    refine ⟨t, f, ht, hf, hformula.trans ((hmeaning none).2.1.mpr ⟨rfl, ?_⟩)⟩
    rw [hleaves]
    exact List.append_ne_nil_of_right_ne_nil _ (List.cons_ne_nil _ _)

end Valuation

end EntityStore
