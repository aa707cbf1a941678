import EntityStore.Proofs.Query.Batches
import EntityStore.Proofs.Query.Translation

/-!
# Conditions that are also predicates

A column and a value are compared by a condition of a clause or by a predicate.  The two texts are made in different
ways: a pattern is put around the quoted text of its value in a condition, while a predicate takes the quotes away,
puts the wildcards around the value itself and quotes the result.  The texts are the same nevertheless
(`Condition.text_predicate`), but that an operation of a predicate always stands in parentheses.

The same holds of membership in a list.  A value without a list is a list of one element to a condition, whereas a
predicate looks for the column in the value as in a text (`membershipAgrees_iff`).
-/

namespace EntityStore

/-! ### Comparisons with one value -/

namespace Comparison

/-- The operator of a predicate that makes the same comparison, for equations and orderings. -/
def binaryOp? : Comparison → Option BinaryOp
  | equals => some .equal
  | notEquals => some .notEqual
  | greaterThan => some .greaterThan
  | greaterThanOrEquals => some .greaterThanOrEqual
  | lessThan => some .lessThan
  | lessThanOrEquals => some .lessThanOrEqual
  | _ => none

/-- The predicate that makes the same comparison of an expression with a value, for all comparisons that are operators
and for patterns. -/
def predicate? (comparison : Comparison) (e : Expr) (v : Value) : Option Expr :=
  match comparison with
  | like => some (.method e Expr.containsName [.constant v])
  | comparison => comparison.binaryOp?.map fun op => .binary op e (.constant v)

theorem symbol?_of_binaryOp? {comparison : Comparison} {op : BinaryOp} (h : comparison.binaryOp? = some op) :
    op.symbol? = some comparison.operator := by
  cases comparison <;> cases h <;> rfl

end Comparison

section Texts

variable {aliases : Aliases} {param? : Option Text} {column : Text} {type? : Option ScalarType}

private theorem text_column (halias : param?.bind aliases.find? = none) :
    (Expr.column param? column type?).textAt aliases (.operand (.column param? column type?)) =
      .ok (Text.bracket column) := by
  simp [Expr.textAt, columnText, Place.operand, Place.hasWildcard, Expr.isBoolean, Text.bracketColumn, halias]

private theorem text_binary {op : BinaryOp} {symbol l r : Text} {left right : Expr} (hsymbol : op.symbol? = some symbol)
    (hleft : left.textAt aliases (.operand left) = .ok l) (hright : right.textAt aliases (.operand right) = .ok r) :
    (Expr.binary op left right).text aliases = .ok ('(' :: l ++ ' ' :: symbol ++ ' ' :: r ++ [')']) := by
  rw [Expr.text, Expr.textAt, hsymbol]
  simp only [hleft, hright, bind, Except.bind]

private theorem text_contains {target pattern : Expr} {l r : Text}
    (hlist : ∀ items, target ≠ .constant (.list items)) (hmatch : canMatch target pattern = true)
    (htarget : target.textAt aliases (.operand target) = .ok l)
    (hpattern : pattern.textAt aliases (.pattern ['%'] ['%']) = .ok r) :
    (Expr.method target Expr.containsName [pattern]).text aliases = .ok ('(' :: l ++ " LIKE ".toList ++ r ++ [')']) := by
  rw [Expr.text, Expr.textAt_method hlist rfl, if_pos hmatch]
  simp only [htarget, hpattern, bind, Except.bind]

private theorem text_constant {v : Value} {l : Literal} (hbool : ∀ b, v ≠ .bool b) (h : v.token? = some l) :
    (Expr.constant v).textAt aliases (.operand (.constant v)) = .ok l.text := by
  rw [Expr.textAt, constantText_of_token? hbool h]
  rfl

/-- Between wildcards the literal of a constant is quoted as a whole. -/
private theorem text_pattern {v : Value} {l : Literal} (hbool : ∀ b, v ≠ .bool b) (h : v.token? = some l) :
    (Expr.constant v).textAt aliases (.pattern ['%'] ['%']) =
      .ok ("'%".toList ++ l.text.dropQuotes ++ "%'".toList) := by
  have hplace : (Place.pattern ['%'] ['%']).hasWildcard = true := rfl
  rw [Expr.textAt, constantText_of_token? hbool h, if_pos hplace, ← l.quote_wildcards]
  rfl

end Texts

namespace Condition

theorem conditionText_like {column : Text} {v : Value} {textCast : Bool} {sql : Text}
    (h : conditionText column .like (some v) textCast = .ok sql) :
    ∃ l, v.token? = some l ∧
      sql = comparand column textCast ++ ' ' :: "LIKE".toList ++ " '%".toList ++ l.text.dropQuotes ++ "%'".toList := by
  obtain ⟨l, hl, hsql⟩ := Value.exists_token?_of_map_literal h
  exact ⟨l, hl, hsql.symm⟩

theorem conditionText_binaryOp {column : Text} {comparison : Comparison} {op : BinaryOp}
    (hop : comparison.binaryOp? = some op) {v : Value} {textCast : Bool} {sql : Text}
    (h : conditionText column comparison (some v) textCast = .ok sql) :
    ∃ l, v.token? = some l ∧ sql = comparand column textCast ++ ' ' :: comparison.operator ++ ' ' :: l.text := by
  have hliteral : v.literal.map (fun literal => comparand column textCast ++ ' ' :: comparison.operator ++ ' ' :: literal) =
      .ok sql := by
    cases comparison <;> first | exact h | cases hop
  obtain ⟨l, hl, hsql⟩ := Value.exists_token?_of_map_literal hliteral
  exact ⟨l, hl, hsql.symm⟩

/-- A predicate that compares a column with a value has the text of the condition that does so, in parentheses.  Truth
values are an exception, since a predicate writes them as words. -/
theorem text_predicate {aliases : Aliases} {param? : Option Text} {column : Text} {type? : Option ScalarType}
    {comparison : Comparison} {v : Value} {e : Expr} {c : Condition} (halias : param?.bind aliases.find? = none)
    (hbool : ∀ b, v ≠ .bool b) (he : comparison.predicate? (.column param? column type?) v = some e)
    (hc : make column comparison (some v) false = .ok c) :
    e.text aliases = .ok ('(' :: c.sql ++ [')']) := by
  have hcolumn : (Expr.column param? column type?).textAt aliases (.operand (.column param? column type?)) =
      .ok (comparand column false) := text_column halias
  by_cases hlike : comparison = .like
  · subst hlike
    obtain rfl := Option.some.inj he
    obtain ⟨-, hsql⟩ := value?_of_make rfl hc
    obtain ⟨l, hl, hsql⟩ := conditionText_like hsql
    rw [text_contains (fun _ => Expr.noConfusion) rfl hcolumn (text_pattern hbool hl), hsql]
    simp
  · have hbinary : comparison.binaryOp?.map (fun op => Expr.binary op (.column param? column type?) (.constant v)) =
        some e := by
      rwa [Comparison.predicate?] at he
      exact hlike
    obtain ⟨op, hop, rfl⟩ := Option.map_eq_some_iff.mp hbinary
    have hnull : comparison.isNullCheck = false := by
      cases comparison <;> first | rfl | cases hop
    obtain ⟨-, hsql⟩ := value?_of_make hnull hc
    obtain ⟨l, hl, hsql⟩ := conditionText_binaryOp hop hsql
    rw [text_binary (Comparison.symbol?_of_binaryOp? hop) hcolumn (text_constant hbool hl), hsql]
    simp

/-- A quote in a pattern, and a bracket in the name of a column that stands for a truth value. -/
theorem text_predicate_quotes :
    (Expr.method (.column (some "p0".toList) "a]b".toList (some .bool)) Expr.containsName
      [.constant (.string "it's".toList)]).text [("p1".toList, "c1".toList)] =
      .ok "([a]]b] LIKE '%it''s%')".toList := by
  have hmake : make "a]b".toList .like (some (.string "it's".toList)) false =
      .ok ⟨"a]b".toList, .like, some (.string "it's".toList), false, "[a]]b] LIKE '%it''s%'".toList, rfl⟩ := by rfl
  exact text_predicate rfl (fun _ => Value.noConfusion) rfl hmake

end Condition

/-! ### Membership -/

/-- Membership in a value as a predicate and as a condition: there is one if there is the other, and the texts are the
same, but that the predicate puts parentheses around a single batch. -/
structure MembershipAgrees (aliases : Aliases) (e : Expr) (column : Text) (v : Value) : Prop where
  exists_iff : (∃ t, (e.isIn v).text aliases = .ok t) ↔ ∃ c, Condition.make column .isIn (some v) false = .ok c
  text_eq : ∀ t c, (e.isIn v).text aliases = .ok t → Condition.make column .isIn (some v) false = .ok c →
    t = if v.leaves.length ≤ 2000 then '(' :: c.sql ++ [')'] else c.sql

theorem Condition.exists_make_isIn_iff {column : Text} {v : Value} {textCast : Bool} :
    (∃ c, make column .isIn (some v) textCast = .ok c) ↔ ∃ batches, v.literalBatches = .ok batches := by
  rw [← failure?_eq_none_iff, failure?_make, ← failure?_eq_none_iff, failure?_literalBatches]
  rfl

theorem Condition.sql_of_make_isIn {column : Text} {v : Value} {c : Condition}
    (h : make column .isIn (some v) false = .ok c) :
    ∃ batches, v.literalBatches = .ok batches ∧ c.sql = batchesText (Text.bracket column) false batches := by
  obtain ⟨-, hsql⟩ := value?_of_make rfl h
  obtain ⟨batches, hbatches, hsql⟩ := map_eq_ok_iff.mp hsql
  exact ⟨batches, hbatches, hsql.symm⟩

section Membership

variable {aliases : Aliases} {param? : Option Text} {column : Text} {type? : Option ScalarType} {v : Value}

private theorem membershipAgrees_list (halias : param?.bind aliases.find? = none) (items : List Value) :
    MembershipAgrees aliases (.column param? column type?) column (.list items) := by
  have htext : ((Expr.column param? column type?).isIn (.list items)).text aliases =
      membershipText (Text.bracket column) items := by
    have hlist : ((Expr.column param? column type?).isIn (.list items)).text aliases =
        ((Expr.column param? column type?).textAt aliases (.operand (.column param? column type?)) >>= fun col =>
          membershipText col items) := rfl
    rw [hlist, text_column halias]
    rfl
  constructor
  · rw [htext, Condition.exists_make_isIn_iff, ← failure?_eq_none_iff, membershipText, failure?_map,
      failure?_eq_none_iff]
  · intro t c ht hc
    rw [htext] at ht
    obtain ⟨batches, hbatches, rfl⟩ := map_eq_ok_iff.mp ht
    obtain ⟨batches', hbatches', hsql⟩ := Condition.sql_of_make_isIn hc
    obtain rfl : batches' = batches := Except.ok.inj (hbatches'.symm.trans hbatches)
    have hlength := Value.length_literalBatches hbatches
    have hsingle : batches'.length ≤ 1 ↔ (Value.list items).leaves.length ≤ 2000 := by omega
    simp only [hsql, hsingle]

/-- A value without a list is the target of a pattern match. -/
private theorem text_isIn_scalar (hscalar : v.isList = false) :
    ((Expr.column param? column type?).isIn v).text aliases =
      ((Expr.constant v).textAt aliases (.operand (.constant v))).map fun target =>
        '(' :: target ++ " LIKE ".toList ++
          columnText aliases param? column type? (.pattern ['%'] ['%']) ++ [')'] := by
  have hlist : ∀ items, Expr.constant v ≠ .constant (.list items) := by
    intro items heq
    obtain rfl := Expr.constant.inj heq
    cases hscalar
  have hmatch : canMatch (.constant v) (.column param? column type?) = true := by
    cases v <;> first | rfl | cases hscalar
  rw [Expr.isIn, Expr.text, Expr.textAt_method hlist rfl, if_pos hmatch]
  cases (Expr.constant v).textAt aliases (.operand (.constant v)) <;> rfl

private theorem exists_text_constant_iff :
    (∃ t, (Expr.constant v).textAt aliases (.operand (.constant v)) = .ok t) ↔ ∃ t, v.literal = .ok t := by
  rw [Expr.textAt, exists_constantText_iff, exists_literal_iff]

/-- As an operand every constant is written as a literal, truth values as strings. -/
private theorem exists_literal_of_text_constant {t : Text}
    (h : (Expr.constant v).textAt aliases (.operand (.constant v)) = .ok t) : ∃ l : Literal, t = l.text := by
  by_cases hbool : ∃ b, v = .bool b
  · obtain ⟨b, rfl⟩ := hbool
    refine ⟨.string (if b then "True".toList else "False".toList), (Except.ok.inj h).symm.trans ?_⟩
    cases b <;> rfl
  · obtain ⟨u, hu⟩ := exists_text_constant_iff.mp ⟨t, h⟩
    obtain ⟨l, hl, -⟩ := Value.literal_eq_ok_iff.mp hu
    have hne : ∀ b, v ≠ .bool b := fun b hb => hbool ⟨b, hb⟩
    exact ⟨l, Except.ok.inj (h.symm.trans (text_constant hne hl))⟩

private theorem Literal.text_append_ne (l : Literal) (rest after : Text) : l.text ++ rest ≠ '[' :: after := by
  intro h
  cases l with
  | string t => exact absurd (List.cons.inj h).1 (by decide)
  | number n =>
    cases htext : n.text with
    | nil => exact absurd (htext ▸ n.isNumeral_text) (by decide)
    | cons d ds =>
      rw [text, htext] at h
      have hd : isNumeralChar d = true := n.isNumeralChar_of_mem d (htext ▸ List.mem_cons_self ..)
      rw [(List.cons.inj h).1] at hd
      exact absurd hd (by decide)

/-- A pattern match begins with its target, a membership with its column. -/
private theorem text_isIn_scalar_ne (hscalar : v.isList = false) {t : Text} {c : Condition}
    (ht : ((Expr.column param? column type?).isIn v).text aliases = .ok t)
    (hc : Condition.make column .isIn (some v) false = .ok c) :
    t ≠ if v.leaves.length ≤ 2000 then '(' :: c.sql ++ [')'] else c.sql := by
  rw [text_isIn_scalar hscalar] at ht
  obtain ⟨target, htarget, rfl⟩ := map_eq_ok_iff.mp ht
  obtain ⟨l, rfl⟩ := exists_literal_of_text_constant htarget
  obtain ⟨batches, hbatches, hsql⟩ := Condition.sql_of_make_isIn hc
  have hleaves : v.leaves.length = 1 := by rw [Value.leaves_of_isList hscalar, List.length_singleton]
  have hsingle : batches.length = 1 := by rw [Value.length_literalBatches hbatches, hleaves]
  obtain ⟨batch, rfl⟩ := List.length_eq_one_iff.mp hsingle
  rw [if_pos (by omega), hsql]
  intro heq
  simp only [List.cons_append, List.append_assoc] at heq
  exact l.text_append_ne _ _ (List.cons.inj heq).2

/-- Membership in a value is the same as a predicate and as a condition if and only if the value is a list, or has no
literal and cannot be compared with at all. -/
theorem membershipAgrees_iff (halias : param?.bind aliases.find? = none) :
    MembershipAgrees aliases (.column param? column type?) column v ↔ v.isList = true ∨ ∀ t, v.literal ≠ .ok t := by
  by_cases hlist : v.isList = true
  · rw [iff_true_right (.inl hlist)]
    cases v <;> first | exact membershipAgrees_list halias _ | cases hlist
  · have hscalar : v.isList = false := by simpa using hlist
    have htext : (∃ t, ((Expr.column param? column type?).isIn v).text aliases = .ok t) ↔ ∃ t, v.literal = .ok t := by
      rw [text_isIn_scalar hscalar, ← failure?_eq_none_iff, failure?_map, failure?_eq_none_iff,
        exists_text_constant_iff]
    have hmake : (∃ c, Condition.make column .isIn (some v) false = .ok c) ↔ ∃ t, v.literal = .ok t := by
      rw [Condition.exists_make_isIn_iff, Value.exists_literalBatches_iff]
      simp [Value.leafAt_iff_of_isList hscalar]
    rw [or_iff_right hlist]
    constructor
    · intro hagrees t ht
      obtain ⟨u, hu⟩ := htext.mpr ⟨t, ht⟩
      obtain ⟨c, hc⟩ := hmake.mpr ⟨t, ht⟩
      exact text_isIn_scalar_ne hscalar hu hc (hagrees.text_eq u c hu hc)
    · intro hnone
      refine ⟨htext.trans hmake.symm, fun u c hu hc => ?_⟩
      obtain ⟨t, ht⟩ := htext.mp ⟨u, hu⟩
      exact absurd ht (hnone t)

end Membership

/-- Lists in a list. -/
theorem membershipAgrees_nested :
    MembershipAgrees [] (.column none "Id".toList none) "Id".toList
      (.list [.list [.int 1, .list []], .string "a".toList]) :=
  (membershipAgrees_iff rfl).mpr (.inl rfl)

/-- The column is looked for in a number, where the condition compares it with the number. -/
theorem not_membershipAgrees_number :
    ((Expr.column none "Id".toList none).isIn (.int 5)).text [] = .ok "(5 LIKE '%'+[Id]+'%')".toList ∧
      (∃ c, Condition.make "Id".toList .isIn (some (.int 5)) false = .ok c ∧ c.sql = "[Id] IN (5)".toList) ∧
      ¬MembershipAgrees [] (.column none "Id".toList none) "Id".toList (.int 5) := by
  have htext : ((Expr.column none "Id".toList none).isIn (.int 5)).text [] =
      .ok "(5 LIKE '%'+[Id]+'%')".toList := by rfl
  have hliteral : (Value.int 5).literalBatches = .ok ["5".toList] := by cbv
  obtain ⟨c, hc⟩ : ∃ c, Condition.make "Id".toList .isIn (some (.int 5)) false = .ok c :=
    Condition.exists_make_isIn_iff.mpr ⟨_, hliteral⟩
  obtain ⟨batches, hbatches, hsql⟩ := Condition.sql_of_make_isIn hc
  obtain rfl : batches = ["5".toList] := Except.ok.inj (hbatches.symm.trans hliteral)
  refine ⟨htext, ⟨c, hc, hsql⟩, ?_⟩
  intro hagrees
  have heq := hagrees.text_eq _ c htext hc
  rw [hsql] at heq
  exact absurd heq (by decide)

end EntityStore
