import EntityStore.Proofs.Query.Batches
import EntityStore.Proofs.Query.ClauseReading
import EntityStore.Proofs.Query.ClauseStream

/-!
# Columns that are compared through their text

A document is compared through its text.  A column is therefore cast to text in a condition if it is declared as a
document, or if the value that it is compared with is one.  A condition names its column in one way only: once for each
batch of a list, otherwise once, and either always between the parentheses of a cast or never
(`Condition.exists_scan?_sql`).

A list is no document, whatever it holds.  Of the conditions that compare with a document, those without the cast are
exactly the ones in which the document is in a list and the column is not declared (`Clause.castThroughout_iff`).
-/

namespace EntityStore

/-! ### Names among tokens -/

namespace Token

/-- Tokens among which the given ones stand so many times; there are no names but those in the given tokens. -/
inductive Repeats (part : List Token) : Nat → List Token → Prop
  | nil : Repeats part 0 []
  | char (c : Char) {n : Nat} {ts : List Token} (h : Repeats part n ts) : Repeats part n (.char c :: ts)
  | string (t : Text) {n : Nat} {ts : List Token} (h : Repeats part n ts) : Repeats part n (.string t :: ts)
  | part {n : Nat} {ts : List Token} (h : Repeats part n ts) : Repeats part (n + 1) (part ++ ts)

variable {part ts us : List Token} {m n : Nat}

theorem Repeats.append (ht : Repeats part m ts) (hu : Repeats part n us) : Repeats part (m + n) (ts ++ us) := by
  induction ht with
  | nil => rwa [Nat.zero_add]
  | char c _ ih => exact .char c ih
  | string t _ ih => exact .string t ih
  | part _ ih =>
    rw [List.append_assoc, Nat.add_right_comm]
    exact .part ih

theorem Repeats.chars_append (t : Text) (h : Repeats part n ts) : Repeats part n (chars t ++ ts) := by
  induction t with
  | nil => exact h
  | cons c t ih => exact .char c ih

theorem repeats_chars (t : Text) : Repeats part 0 (chars t) := by
  have hnil : Repeats part 0 [] := .nil
  have hchars := hnil.chars_append t
  rwa [List.append_nil] at hchars

theorem Repeats.enclose (h : Repeats part n ts) : Repeats part n (enclose ts) :=
  .char '(' (h.append (.char ')' .nil))

theorem repeats_self : Repeats part 1 part := by
  have hnil : Repeats part 0 [] := .nil
  have hpart := hnil.part
  rwa [List.append_nil] at hpart

end Token

open Token (Repeats)

/-! ### The column of a condition -/

section Items

variable {part : List Token}

theorem Literal.repeats_tokens (l : Literal) : Repeats part 0 l.tokens := by
  cases l with
  | string t => exact .string t .nil
  | number n => exact Token.repeats_chars n.text

theorem Literal.repeats_listTokens (ls : List Literal) : Repeats part 0 (listTokens ls) := by
  fun_induction listTokens ls with
  | case1 => exact .nil
  | case2 l => exact l.repeats_tokens
  | case3 l m rest ih => exact l.repeats_tokens.append (.char ',' (.char ' ' ih))

private theorem repeats_operandTokens (comparison : Comparison) (operands : List Literal) :
    Repeats part 0 (operandTokens comparison operands) := by
  have hlist : Repeats part 0 (Literal.listTokens operands) := Literal.repeats_listTokens operands
  unfold operandTokens
  split
  · exact .nil
  · split
    · exact .char ' ' hlist.enclose
    · exact .char ' ' hlist

end Items

/-- A test names its column once, before the operator. -/
private theorem repeats_test (joint : Joint) (column : Text) (textCast : Bool) (comparison : Comparison)
    (operands : List Literal) :
    Repeats (comparandTokens column textCast) 1 (Item.test joint column textCast comparison operands).tokens := by
  have hoperands : Repeats (comparandTokens column textCast) 0 (operandTokens comparison operands) :=
    repeats_operandTokens comparison operands
  have htest := Token.repeats_self.append (.char ' ' (hoperands.chars_append comparison.operator))
  simpa [Item.tokens] using htest

private theorem repeats_batches (column : Text) (textCast negated : Bool) (joint : Joint)
    (batches : List (List Literal)) :
    Repeats (comparandTokens column textCast) batches.length
      (itemsTokens false (batches.map (batchItem column textCast negated joint))) := by
  induction batches with
  | nil => exact .nil
  | cons batch rest ih =>
    have hbatch := repeats_test joint column textCast (if negated then .isNotIn else .isIn) batch
    rw [List.map_cons, List.length_cons, itemsTokens, if_neg (by decide), List.append_assoc, Nat.add_comm]
    exact (hbatch.append ih).chars_append _

/-- A membership names its column in every batch, the first and all others. -/
private theorem repeats_membershipItem (joint : Joint) (column : Text) (textCast negated : Bool)
    (batches : List (List Literal)) :
    Repeats (comparandTokens column textCast) batches.length
      (membershipItem joint column textCast negated batches).tokens := by
  match batches with
  | [] =>
    exact Token.repeats_chars _
  | [batch] => exact repeats_test joint column textCast _ batch
  | first :: second :: rest =>
    have hfirst := repeats_test .initial column textCast (if negated then .isNotIn else .isIn) first
    have hothers := repeats_batches column textCast negated (if negated then .and else .or) (second :: rest)
    have hgroup := (hfirst.append hothers).enclose
    rw [Nat.add_comm] at hgroup
    simpa [membershipItem, Item.tokens, itemsTokens, batchItem] using hgroup

/-- How often a comparison with a value names its column.  A list that it looks into is cut into batches of two thousand
leaves, each of which is compared with the column. -/
def Comparison.mentions (comparison : Comparison) (v : Value) : Nat :=
  if comparison.isMembership then (v.leaves.length + 1999) / 2000 else 1

private theorem Condition.repeats_tokens {joint : Joint} {c : Condition} {v : Value} {item : Item}
    (hvalue : c.value? = some v) (h : c.item? joint = some item) :
    Repeats (comparandTokens c.column c.textCast) (c.comparison.mentions v) item.tokens := by
  have hmembership {negated : Bool}
      (h : v.tokenBatches?.map (membershipItem joint c.column c.textCast negated) = some item) :
      Repeats (comparandTokens c.column c.textCast) ((v.leaves.length + 1999) / 2000) item.tokens := by
    obtain ⟨batches, hbatches, rfl⟩ := Option.map_eq_some_iff.mp h
    rw [← Value.length_tokenBatches hbatches]
    exact repeats_membershipItem joint c.column c.textCast negated batches
  have htest {α : Type} {x : Option α} {operands : α → List Literal}
      (h : x.map (fun a => Item.test joint c.column c.textCast c.comparison (operands a)) = some item) :
      Repeats (comparandTokens c.column c.textCast) 1 item.tokens := by
    obtain ⟨a, -, rfl⟩ := Option.map_eq_some_iff.mp h
    exact repeats_test joint c.column c.textCast c.comparison (operands a)
  rw [Condition.item?, hvalue] at h
  cases hcomparison : c.comparison with
  | isIn =>
    simp only [hcomparison] at h
    exact hmembership h
  | isNotIn =>
    simp only [hcomparison] at h
    exact hmembership h
  | _ =>
    simp only [hcomparison] at h htest
    exact htest h

/-- A condition with a value names its column in one way only, as often as its comparison asks for. -/
theorem Condition.exists_scan?_sql {column : Text} {comparison : Comparison} {v : Value} {textCast : Bool}
    {c : Condition} (hnull : comparison.isNullCheck = false)
    (h : make column comparison (some v) textCast = .ok c) :
    ∃ ts, Token.scan? c.sql = some ts ∧ Repeats (comparandTokens column textCast) (comparison.mentions v) ts := by
  obtain ⟨hvalue, -⟩ := value?_of_make hnull h
  obtain ⟨rfl, rfl, rfl, -⟩ := parts_of_make h
  obtain ⟨item, hitem, hreads⟩ := exists_readsAs_of_make .initial h
  have hproper : itemsProper true [item] = true := by simp [itemsProper, hreads.joint_eq, hreads.isProper]
  have hseparated : Token.Separated item.tokens := by
    have hitems := separated_itemsTokens [item] hproper
    simpa [itemsTokens] using hitems
  refine ⟨item.tokens, ?_, repeats_tokens hvalue hitem⟩
  rw [← hreads.spell_eq, Token.scan?_spell hseparated]

/-! ### The conditions of a clause -/

/-- The comparison that a step makes with its column and its value, if it makes one. -/
def Step.test? : Step → Option (Text × Comparison × Option Value)
  | .condition _ column comparison value? => some (column, comparison, value?)
  | .beginGroup _ column comparison value? => some (column, comparison, value?)
  | .endGroup => none

/-- The condition that is written, if it is one. -/
def Fragment.condition? : Fragment → Option Condition
  | .condition c => some c
  | _ => none

namespace Clause

/-- The conditions of a clause under way, in the order in which they are written. -/
def conditions (w : Clause) : List Condition :=
  w.fragments.filterMap Fragment.condition?

/-- A clause that has the conditions of another one, and perhaps more after them. -/
structure Grows (w w' : Clause) : Prop where
  begun : w'.Begun
  columns_eq : w'.columns = w.columns
  keeps : w.conditions <+: w'.conditions

/-- Whether a step fails or not, what was written stays. -/
theorem Begun.grows_step {w : Clause} (hw : w.Begun) (s : Step) : w.Grows (w.step s) := by
  rcases w.makes_or_fails s with hmakes | ⟨err, hfails⟩
  · obtain ⟨own, -, hextends⟩ := hw.extends_of_makes hmakes
    refine ⟨hextends.begun, hextends.columns_eq, ?_⟩
    rw [conditions, conditions, hextends.fragments_eq, List.filterMap_append]
    exact List.prefix_append _ _
  · rw [hfails]
    exact ⟨hw, rfl, List.prefix_rfl⟩

theorem Begun.grows_run {w : Clause} (hw : w.Begun) (steps : List Step) : w.Grows (w.run steps) := by
  induction steps using List.reverseRecOn with
  | nil => exact ⟨hw, rfl, List.prefix_rfl⟩
  | append_singleton steps s ih =>
    have hstep := ih.begun.grows_step s
    rw [run_concat]
    exact ⟨hstep.begun, hstep.columns_eq.trans ih.columns_eq, ih.keeps.trans hstep.keeps⟩

/-- A step that compares adds its condition to the others, alone or at the beginning of a group. -/
theorem Begun.conditions_step {w : Clause} (hw : w.Begun) {s : Step} (herror : (w.step s).error? = none)
    {column : Text} {comparison : Comparison} {value? : Option Value}
    (hs : s.test? = some (column, comparison, value?)) :
    ∃ c, w.conditionOf column comparison value? = .ok c ∧ (w.step s).conditions = w.conditions ++ [c] := by
  obtain ⟨own, hown, hextends⟩ := hw.extends_of_makes (makes_step herror)
  have hjoints : (if w.isEmpty then [] else s.joints).filterMap Fragment.condition? = [] := by
    split
    · rfl
    · cases s <;> rfl
  have hmade : ∃ c, w.conditionOf column comparison value? = .ok c ∧ own.filterMap Fragment.condition? = [c] := by
    cases s with
    | endGroup => cases hs
    | _ =>
      obtain ⟨rfl, rfl, rfl⟩ := by simpa [Step.test?] using hs
      obtain ⟨c, hc, rfl⟩ := map_eq_ok_iff.mp hown
      exact ⟨c, hc, rfl⟩
  obtain ⟨c, hc, hcondition⟩ := hmade
  refine ⟨c, hc, ?_⟩
  rw [conditions, hextends.fragments_eq, List.filterMap_append, List.filterMap_append, hjoints, hcondition,
    List.nil_append, conditions]

end Clause

/-! ### Documents -/

/-- A column between the parentheses of the cast to text. -/
def castTokens (column : Text) : List Token :=
  Token.chars "CONVERT(NVARCHAR(MAX), ".toList ++ [.name column, .char ')']

theorem comparandTokens_true (column : Text) : comparandTokens column true = castTokens column := rfl

/-- A condition with the cast, in the text of which the column stands so many times and always between the parentheses
of the cast. -/
structure Condition.CastThroughout (c : Condition) (n : Nat) : Prop where
  textCast_eq : c.textCast = true
  exists_scan?_sql : ∃ ts, Token.scan? c.sql = some ts ∧ Repeats (castTokens c.column) n ts

/-- A condition that has the cast at all has it wherever its column stands. -/
theorem Condition.castThroughout_iff_textCast {column : Text} {comparison : Comparison} {v : Value} {textCast : Bool}
    {c : Condition} (hnull : comparison.isNullCheck = false)
    (h : make column comparison (some v) textCast = .ok c) :
    c.CastThroughout (comparison.mentions v) ↔ textCast = true := by
  obtain ⟨hcolumn, -, htextCast, -⟩ := parts_of_make h
  obtain ⟨ts, hscan, hrepeats⟩ := exists_scan?_sql hnull h
  constructor
  · intro hthroughout
    rw [← htextCast, hthroughout.textCast_eq]
  · intro htrue
    rw [htrue, comparandTokens_true, ← hcolumn] at hrepeats
    exact ⟨htextCast.trans htrue, ts, hscan, hrepeats⟩

/-- A column that is declared as a document. -/
def DeclaredDocument (columns : List Column) (column : Text) : Prop :=
  ∃ declared, findColumn? columns column = some declared ∧ declared.needsTextCast = true

/-- A document, or a list in which there is one at any depth. -/
def Value.HoldsDocument (v : Value) : Prop :=
  ∃ path leaf, v.LeafAt path leaf ∧ leaf.isXml = true

private theorem any_needsTextCast_iff {columns : List Column} {column : Text} :
    (findColumn? columns column).any Column.needsTextCast = true ↔ DeclaredDocument columns column := by
  simp [DeclaredDocument, Option.any_eq_true]

/-- A document is the only value without a list that holds one. -/
theorem Value.HoldsDocument.isXml_iff {v : Value} (h : v.HoldsDocument) : v.isXml = true ↔ v.isList = false := by
  constructor
  · intro hxml
    cases v <;> first | rfl | cases hxml
  · intro hlist
    obtain ⟨path, leaf, hleaf, hxml⟩ := h
    obtain ⟨-, rfl⟩ := (leafAt_iff_of_isList hlist).mp hleaf
    exact hxml

namespace Clause

variable {columns : List Column} {before : List Step} {s : Step} {column : Text} {comparison : Comparison} {v : Value}

/-- An accepted step that compares a document, be it the column or the value, adds one condition, and no later step takes
it away.  The column is cast to text wherever it stands exactly if it is declared as a document or the value is no
list. -/
theorem castThroughout_iff (after : List Step) (hs : s.test? = some (column, comparison, some v))
    (hnull : comparison.isNullCheck = false)
    (haccepted : (({ columns } : Clause).run (before ++ [s])).error? = none)
    (hdocument : DeclaredDocument columns column ∨ v.HoldsDocument) :
    ∃ c, (({ columns } : Clause).run (before ++ [s])).conditions =
        (({ columns } : Clause).run before).conditions ++ [c] ∧
      (({ columns } : Clause).run (before ++ [s])).conditions <+:
        (({ columns } : Clause).run (before ++ s :: after)).conditions ∧
      c.column = column ∧ c.comparison = comparison ∧ c.value? = some v ∧
      (c.CastThroughout (comparison.mentions v) ↔ DeclaredDocument columns column ∨ v.isList = false) := by
  have hempty : ({ columns } : Clause).Begun := by
    intro g hg
    cases hg
  have hbefore := hempty.grows_run before
  rw [run_concat] at haccepted ⊢
  obtain ⟨c, hc, hconditions⟩ := hbefore.begun.conditions_step haccepted hs
  have hlater := (hbefore.begun.grows_step s).begun.grows_run after
  have hrun : ({ columns } : Clause).run (before ++ s :: after) =
      ((({ columns } : Clause).run before).step s).run after := by
    rw [run_append]
    rfl
  rw [conditionOf, hbefore.columns_eq] at hc
  obtain ⟨hcolumn, hcomparison, -, -⟩ := Condition.parts_of_make hc
  obtain ⟨hvalue, -⟩ := Condition.value?_of_make hnull hc
  refine ⟨c, hconditions, hrun ▸ hlater.keeps, hcolumn, hcomparison, hvalue, ?_⟩
  rw [Condition.castThroughout_iff_textCast hnull hc, Bool.or_eq_true, any_needsTextCast_iff, Option.any_some]
  -- what decides is whether the value itself is a document
  rcases hdocument with hdeclared | hholds
  · simp [hdeclared]
  · rw [hholds.isXml_iff]

/-- A document column at the beginning of a group, and a list with a list in it. -/
theorem castThroughout_declaredColumn :
    let columns : List Column := [{ name := "Body".toList, type := { scalar := .xml } }]
    let steps : List Step := [.condition .initial "Id".toList .equals (some (.int 1)),
      .beginGroup .and "Body".toList .isNotIn (some (.list [.list [.xml "<a/>".toList], .string "b".toList])), .endGroup]
    (({ columns } : Clause).run steps).conditions.map Condition.sql =
        ["[Id] = 1".toList, "CONVERT(NVARCHAR(MAX), [Body]) NOT IN ('<a/>', 'b')".toList] ∧
      ∃ c ∈ (({ columns } : Clause).run steps).conditions, c.column = "Body".toList ∧ c.CastThroughout 1 := by
  intro columns steps
  have hdeclared : DeclaredDocument columns "Body".toList := ⟨_, rfl, rfl⟩
  obtain ⟨c, hconditions, hkept, hcolumn, -, -, hthroughout⟩ :=
    @castThroughout_iff columns [steps[0]] steps[1] _ _ _ [.endGroup] rfl rfl (by decide +kernel) (.inl hdeclared)
  refine ⟨by decide +kernel, c, hkept.subset ?_, hcolumn, hthroughout.mpr (.inl hdeclared)⟩
  rw [hconditions]
  exact List.mem_concat_self

/-- A document in a list is compared with a column that is not declared as one, and there is no cast. -/
theorem not_castThroughout_listedDocument :
    let v : Value := .list [.xml "<a/>".toList]
    let w := ({} : Clause).run [.condition .initial "Doc".toList .isIn (some v)]
    v.HoldsDocument ∧ w.error? = none ∧ w.conditions.map Condition.sql = ["[Doc] IN ('<a/>')".toList] ∧
      ∀ c ∈ w.conditions, ¬c.CastThroughout (Comparison.isIn.mentions v) := by
  intro v w
  have hbare : ∀ c ∈ w.conditions, c.textCast = false := by decide +kernel
  refine ⟨⟨[0], .xml "<a/>".toList, ⟨rfl, rfl⟩, rfl⟩, by decide +kernel, by decide +kernel, ?_⟩
  intro c hc hthroughout
  have htrue := hthroughout.textCast_eq
  rw [hbare c hc] at htrue
  exact Bool.noConfusion htrue

end Clause

end EntityStore
