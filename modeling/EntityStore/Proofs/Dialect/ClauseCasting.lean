import EntityStore.Proofs.Access.Operation
import EntityStore.Proofs.Dialect.Casting
import EntityStore.Proofs.Query.ClauseReading

/-!
# Clauses in the lite dialect

The statements that select or delete by a clause consist of names, literals, casts of columns, and words that begin
no cast (`Operation.isCastable_sql`).  The dialect therefore changes nothing in them but the casts, unless a name or a
literal itself says how a cast begins (`Operation.data_adapt`).
-/

namespace EntityStore

open Lite (Castable castMark isInert isInert_of_notMem castable_chars)

/-! ### Clauses -/

theorem Literal.castable_tokens (l : Literal) : Castable l.tokens := by
  cases l with
  | string t => exact .string t .nil
  | number n =>
    have hinert : isInert n.text = true :=
      isInert_of_notMem fun h => absurd (n.isNumeralChar_of_mem _ h) (by decide)
    exact castable_chars hinert

theorem Literal.castable_listTokens (ls : List Literal) : Castable (listTokens ls) := by
  fun_induction listTokens ls with
  | case1 => exact .nil
  | case2 l => exact l.castable_tokens
  | case3 l m rest ih => exact l.castable_tokens.append (.char (by decide) (.char (by decide) ih))

private theorem castable_comparandTokens (column : Text) (textCast : Bool) :
    Castable (comparandTokens column textCast) := by
  cases textCast with
  | false => exact .name column .nil
  | true => exact .cast column .nil

private theorem castable_operandTokens (comparison : Comparison) (operands : List Literal) :
    Castable (operandTokens comparison operands) := by
  have hlist := Literal.castable_listTokens operands
  unfold operandTokens
  split
  · exact .nil
  · split
    · exact .char (by decide) hlist.enclose
    · exact .char (by decide) hlist

mutual

private theorem Item.castable_tokens : (item : Item) → Castable item.tokens
  | .constant _ holds => by
    rw [Item.tokens]
    exact castable_chars (by cases holds <;> decide)
  | .test _ column textCast comparison operands => by
    have hoperator : isInert comparison.operator = true := by cases comparison <;> decide
    have hcolumn := castable_comparandTokens column textCast
    rw [Item.tokens]
    exact (hcolumn.append (.char (by decide) (castable_chars hoperator))).append
      (castable_operandTokens comparison operands)
  | .group _ items => by
    rw [Item.tokens]
    exact (castable_itemsTokens true items).enclose

/-- A clause has no casts but those of its columns. -/
theorem castable_itemsTokens (atStart : Bool) : (items : List Item) → Castable (itemsTokens atStart items)
  | [] => by
    rw [itemsTokens]
    exact .nil
  | item :: rest => by
    have hjoint : Castable (if atStart then [] else Token.chars item.joint.separator) := by
      cases atStart with
      | true => exact .nil
      | false => exact castable_chars (by cases item.joint <;> decide)
    rw [itemsTokens]
    exact (hjoint.append item.castable_tokens).append (castable_itemsTokens false rest)

end

/-! ### Statements -/

/-- A text of separate tokens among which all casts are casts of columns. -/
def IsCastable (t : Text) : Prop :=
  ∃ ts, Token.spell ts = t ∧ Token.Separated ts ∧ Castable ts

theorem isCastable_bracket (name : Text) : IsCastable (Text.bracket name) :=
  ⟨[.name name], by simp [Token.text], Token.separated_singleton rfl, .name name .nil⟩

theorem isCastable_clauseText {items : List Item} (h : itemsProper true items = true) :
    IsCastable (clauseText items) :=
  ⟨itemsTokens true items, rfl, separated_itemsTokens items h, castable_itemsTokens true items⟩

section Words

variable {s t u : Text}

theorem IsCastable.text_append (hplain : Token.isPlainText s = true) (hinert : isInert s = true) (h : IsCastable t) :
    IsCastable (s ++ t) := by
  obtain ⟨ts, rfl, hseparated, hcastable⟩ := h
  exact ⟨Token.chars s ++ ts, by simp, hseparated.chars_append hplain, .text hinert hcastable⟩

/-- Words between two parts keep their tokens apart. -/
theorem IsCastable.join (ht : IsCastable t) (hne : s ≠ []) (hplain : Token.isPlainText s = true)
    (hinert : isInert s = true) (hu : IsCastable u) : IsCastable (t ++ s ++ u) := by
  obtain ⟨ts, rfl, htseparated, htcastable⟩ := ht
  obtain ⟨us, rfl, huseparated, hucastable⟩ := hu
  refine ⟨ts ++ (Token.chars s ++ us), by simp, ?_, htcastable.append (.text hinert hucastable)⟩
  have hright := huseparated.chars_append hplain
  obtain ⟨c, s, rfl⟩ := List.exists_cons_of_ne_nil hne
  exact htseparated.append_char hright

theorem isCastable_joinWith (hne : s ≠ []) (hplain : Token.isPlainText s = true) (hinert : isInert s = true)
    {ts : List Text} (h : ∀ t ∈ ts, IsCastable t) : IsCastable (Text.joinWith s ts) := by
  fun_induction Text.joinWith s ts with
  | case1 => exact ⟨[], rfl, Token.separated_nil, .nil⟩
  | case2 t => exact h t (List.mem_singleton_self t)
  | case3 t u rest ih =>
    obtain ⟨ht, hrest⟩ := List.forall_mem_cons.mp h
    exact ht.join hne hplain hinert (ih hrest)

end Words

theorem Entity.isCastable_tableText (e : Entity) : IsCastable e.tableText := by
  unfold tableText Text.bracketTable
  split
  · exact isCastable_bracket _
  · have hjoin := (isCastable_bracket e.schema).join (s := ['.']) (by decide) (by decide) (by decide)
      (isCastable_bracket e.table)
    rwa [List.append_assoc] at hjoin

theorem Repository.isCastable_selectWhereSql (e : Entity) {clause : Text} (h : IsCastable clause) :
    IsCastable (selectWhereSql e clause) := by
  have hcolumns : IsCastable (Text.joinWith ", ".toList (e.columns.map fun c => Text.bracket c.name)) := by
    refine isCastable_joinWith (by decide) (by decide) (by decide) fun t ht => ?_
    obtain ⟨c, -, rfl⟩ := List.mem_map.mp ht
    exact isCastable_bracket c.name
  have hall := (hcolumns.text_append (s := "SELECT ".toList) (by decide) (by decide)).join (s := " FROM ".toList)
    (by decide) (by decide) (by decide) e.isCastable_tableText
  exact hall.join (by decide) (by decide) (by decide) h

theorem Repository.isCastable_deleteWhereSql (e : Entity) {clause : Text} (h : IsCastable clause) :
    IsCastable (deleteWhereSql e clause) :=
  (e.isCastable_tableText.text_append (by decide) (by decide)).join (by decide) (by decide) (by decide) h

/-! ### Operations -/

namespace Operation

variable {α : Type}

/-- Whether an operation selects rows by a clause, the first step of which begins it and all others continue. -/
def SelectsByClause : Operation α → Prop
  | whereSteps (.condition .initial _ _ _ :: steps) => ∀ s ∈ steps, s.isJoined = true
  | whereColumn _ _ _ => True
  | whereEqual _ => True
  | deleteIn _ _ => True
  | _ => False

private theorem forall_isJoined_equalitySteps (criteria : List (Text × Value)) :
    ∀ s ∈ criteria.map fun criterion => Step.condition .and criterion.1 .equals (some criterion.2),
      s.isJoined = true := by
  intro s hs
  obtain ⟨_, -, rfl⟩ := List.mem_map.mp hs
  rfl

/-- A statement that selects or deletes by a clause has the written form of proper items at its end. -/
theorem exists_items_of_mem_statements {e : Entity} {op : Operation α} (hop : op.SelectsByClause)
    {statements : List Statement} (h : op.statements e = .ok statements) {st : Statement} (hst : st ∈ statements) :
    ∃ items, itemsProper true items = true ∧
      (st.sql = Repository.selectWhereSql e (clauseText items) ∨
        st.sql = Repository.deleteWhereSql e (clauseText items)) := by
  -- however a query is asked for, its clause is a first condition with steps joined to it
  have hselect {column : Text} {comparison : Comparison} {value? : Option Value} {steps : List Step}
      (hsteps : ∀ s ∈ steps, s.isJoined = true)
      (h : ((Repository.queryText e (Repository.clause e
        (.condition .initial column comparison value? :: steps))).map fun sql => [queryOf sql]) = .ok statements) :
      ∃ items, itemsProper true items = true ∧ st.sql = Repository.selectWhereSql e (clauseText items) := by
    obtain ⟨sql, hsql, rfl⟩ := map_eq_ok_iff.mp h
    obtain ⟨clause, hclause, rfl⟩ := map_eq_ok_iff.mp hsql
    obtain ⟨items, hproper, rfl⟩ := Clause.exists_clauseText e.columns column comparison value? hsteps hclause
    exact ⟨items, hproper, congrArg Statement.sql (List.mem_singleton.mp hst)⟩
  cases op with
  | whereSteps steps =>
    cases steps with
    | nil => exact hop.elim
    | cons first steps =>
      cases first with
      | condition joint column comparison value? =>
        cases joint with
        | initial =>
          obtain ⟨items, hproper, hsql⟩ := hselect hop h
          exact ⟨items, hproper, .inl hsql⟩
        | _ => exact hop.elim
      | _ => exact hop.elim
  | whereColumn column comparison v =>
    obtain ⟨items, hproper, hsql⟩ := hselect (List.forall_mem_nil _) h
    exact ⟨items, hproper, .inl hsql⟩
  | whereEqual criteria =>
    cases criteria with
    | nil =>
      obtain rfl := Except.ok.inj h
      exact absurd hst List.not_mem_nil
    | cons criterion rest =>
      obtain ⟨items, hproper, hsql⟩ := hselect (forall_isJoined_equalitySteps rest) h
      exact ⟨items, hproper, .inl hsql⟩
  | deleteIn column values =>
    obtain ⟨clause, hclause, rfl⟩ := map_eq_ok_iff.mp h
    obtain ⟨items, hproper, rfl⟩ :=
      Clause.exists_clauseText e.columns column .isIn (some values) (List.forall_mem_nil _) hclause
    exact ⟨items, hproper, .inr (congrArg Statement.sql (List.mem_singleton.mp hst))⟩
  | _ => exact hop.elim

/-- All casts in a statement that selects or deletes by a clause are casts of columns. -/
theorem isCastable_sql {e : Entity} {op : Operation α} (hop : op.SelectsByClause) {statements : List Statement}
    (h : op.statements e = .ok statements) {st : Statement} (hst : st ∈ statements) : IsCastable st.sql := by
  obtain ⟨items, hproper, hsql | hsql⟩ := exists_items_of_mem_statements hop h hst
  · rw [hsql]
    exact Repository.isCastable_selectWhereSql e (isCastable_clauseText hproper)
  · rw [hsql]
    exact Repository.isCastable_deleteWhereSql e (isCastable_clauseText hproper)

/-- The dialect only rewrites the casts of a statement that selects or deletes by a clause. -/
theorem adapt_sql {e : Entity} {op : Operation α} (hop : op.SelectsByClause) {statements : List Statement}
    (h : op.statements e = .ok statements) {st : Statement} (hst : st ∈ statements) :
    Lite.adapt st.sql = (Lite.castsFrom? st.sql).getD st.sql := by
  obtain ⟨items, -, hsql | hsql⟩ := exists_items_of_mem_statements hop h hst
  · obtain ⟨t, ht⟩ : ∃ t, Repository.selectWhereSql e (clauseText items) = 'S' :: t := ⟨_, rfl⟩
    rw [hsql, ht]
    exact Lite.adapt_cons (by decide) (by decide) t
  · obtain ⟨t, ht⟩ : ∃ t, Repository.deleteWhereSql e (clauseText items) = 'D' :: t := ⟨_, rfl⟩
    rw [hsql, ht]
    exact Lite.adapt_cons (by decide) (by decide) t

/-- In a statement that selects or deletes by a clause, the dialect keeps all names and literals as they are and in
their order if none of them says how a cast begins.  It searches names and literals for casts, too. -/
theorem data_adapt {e : Entity} {op : Operation α} (hop : op.SelectsByClause) {statements : List Statement}
    (h : op.statements e = .ok statements) {st : Statement} (hst : st ∈ statements)
    (hmark : ∀ data ∈ Token.data? st.sql, ∀ t ∈ data, ¬castMark <:+: t.content) :
    ∃ data, Token.data? st.sql = some data ∧ Token.data? (Lite.adapt st.sql) = some data := by
  obtain ⟨ts, hspell, hseparated, hcastable⟩ := isCastable_sql hop h hst
  rw [adapt_sql hop h hst, ← hspell]
  rw [← hspell, Token.data?_spell hseparated] at hmark
  obtain ⟨us, hus⟩ := hcastable.exists_rewritten fun t ht hdata =>
    hmark _ rfl t (List.mem_filter.mpr ⟨ht, hdata⟩)
  refine ⟨_, Token.data?_spell hseparated, ?_⟩
  rw [hus.castsFrom?_eq, Option.getD_some, Token.data?_spell (hus.separated hseparated), hus.data_eq]

/-- Literals stay beside a cast that is rewritten, also if they have parts of what would begin one. -/
theorem data_adapt_besideCast :
    let e : Entity := ⟨"Page".toList, [], "Page".toList, [{ name := "Doc".toList, type := ⟨.xml, true⟩ }]⟩
    let op : Operation (List Record) := .whereColumn "Doc".toList .like (.xml "CONVERT(['".toList)
    let sql := "SELECT [Doc] FROM [Page] WHERE CONVERT(NVARCHAR(MAX), [Doc]) LIKE '%CONVERT([''%'".toList
    let data : List Token :=
      [.name "Doc".toList, .name "Page".toList, .name "Doc".toList, .string "%CONVERT(['%".toList]
    op.statements e = .ok [queryOf sql] ∧ Token.data? sql = some data ∧ Token.data? (Lite.adapt sql) = some data := by
  intro e op sql data
  have hstatements : op.statements e = .ok [queryOf sql] := by rfl
  let tokens : List Token := Token.chars "SELECT ".toList ++ .name "Doc".toList :: (Token.chars " FROM ".toList ++
    .name "Page".toList :: (Token.chars " WHERE CONVERT(NVARCHAR(MAX), ".toList ++ .name "Doc".toList ::
    (Token.chars ") LIKE ".toList ++ [.string "%CONVERT(['%".toList])))
  have hseparated : Token.Separated tokens := ⟨by decide, by decide⟩
  have hdata : Token.data? sql = some data := Token.data?_spell hseparated
  have hspace : ∀ t ∈ data, ' ' ∉ t.content := by decide
  have hmark : ∀ d ∈ Token.data? sql, ∀ t ∈ d, ¬castMark <:+: t.content := by
    intro d hd t ht h
    obtain rfl : data = d := Option.some.inj (hdata.symm.trans hd)
    exact hspace t ht (h.subset (by decide))
  have hop : op.SelectsByClause := trivial
  obtain ⟨_, hbefore, hafter⟩ := data_adapt hop hstatements (List.mem_singleton_self _) hmark
  exact ⟨hstatements, hdata, hafter.trans (hbefore.symm.trans hdata)⟩

/-- A literal that says how a cast begins is rewritten as if it were one. -/
theorem data_adapt_castInLiteral :
    let e : Entity :=
      ⟨"Tag".toList, "dbo".toList, "Tag".toList, [{ name := "Label".toList, type := ⟨.string, false⟩ }]⟩
    let op : Operation (List Record) :=
      .whereColumn "Label".toList .equals (.string "CONVERT(NVARCHAR(MAX), x)".toList)
    let sql := "SELECT [Label] FROM [dbo].[Tag] WHERE [Label] = 'CONVERT(NVARCHAR(MAX), x)'".toList
    let names : List Token := [.name "Label".toList, .name "dbo".toList, .name "Tag".toList, .name "Label".toList]
    op.SelectsByClause ∧ op.statements e = .ok [queryOf sql] ∧
      Token.data? sql = some (names ++ [.string "CONVERT(NVARCHAR(MAX), x)".toList]) ∧
      Token.data? (Lite.adapt sql) = some (names ++ [.string "CAST(x AS TEXT)".toList]) := by
  intro e op sql names
  have hop : op.SelectsByClause := trivial
  have hstatements : op.statements e = .ok [queryOf sql] := by rfl
  let tokens (literal : Text) : List Token := Token.chars "SELECT ".toList ++ .name "Label".toList ::
    (Token.chars " FROM ".toList ++ .name "dbo".toList :: .char '.' :: .name "Tag".toList ::
    (Token.chars " WHERE ".toList ++ .name "Label".toList :: (Token.chars " = ".toList ++ [.string literal])))
  have hbefore : Token.Separated (tokens "CONVERT(NVARCHAR(MAX), x)".toList) := ⟨by decide, by decide⟩
  have hafter : Token.Separated (tokens "CAST(x AS TEXT)".toList) := ⟨by decide, by decide⟩
  have hmark : Text.splitFirst? castMark sql =
      some ("SELECT [Label] FROM [dbo].[Tag] WHERE [Label] = '".toList, "x)'".toList) := by rfl
  have hadapt : Lite.adapt sql = Token.spell (tokens "CAST(x AS TEXT)".toList) := by
    have hquote : Lite.castsFrom? "'".toList = some "'".toList := Lite.castsFrom?_of_none rfl
    have hsql := adapt_sql hop hstatements (List.mem_singleton_self _)
    have hoperand : Lite.splitOperand? false "x)'".toList = some ("x".toList, "'".toList) := rfl
    rw [queryOf, Lite.castsFrom?_of_some hmark, hoperand, Option.bind_some, hquote] at hsql
    exact hsql
  refine ⟨hop, hstatements, Token.data?_spell hbefore, ?_⟩
  rw [hadapt]
  exact Token.data?_spell hafter

end Operation

end EntityStore
