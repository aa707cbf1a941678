import EntityStore.Proofs.Dialect.Recasting
import EntityStore.Proofs.Access.Operation
import EntityStore.Proofs.Query.ClauseComment

/-!
# Clauses with another form of cast

The text of a clause depends on how a cast to text is written, and on nothing else that the server and the lite dialect
write differently.  `linksTextWith` writes the links of a clause with any form of cast; with that of the server it gives
the text that statements have (`linksTextWith_serverCast`).

Rewriting the casts of a statement gives the statement whose clause is written with the other form of cast, provided
that no name and no text in it says how a cast begins (`Operation.adapt_recasts`).  The induction is on the links, with
one case for each part of a condition.
-/

namespace EntityStore

open Lite (castMark isInert Recasts Stays serverCast liteCast stays_of_isInert stays_bracket recasts_joinWith)

/-! ### Conditions -/

/-- What a column looks like in a comparison, with the given form of cast. -/
def comparandWith (cast : Text → Text) (column : Text) (textCast : Bool) : Text :=
  if textCast then cast column else Text.bracket column

/-- The comparison of a comparand with a value. -/
def comparisonText (left : Text) (comparison : Comparison) (value? : Option Value) : Except Error Text :=
  match value? with
  | none => .ok (left ++ ' ' :: comparison.operator)
  | some v =>
    match comparison with
    | .like | .notLike =>
      v.literal.map fun literal =>
        left ++ ' ' :: comparison.operator ++ " '%".toList ++ Text.dropQuotes literal ++ "%'".toList
    | .isIn => v.literalBatches.map (batchesText left false)
    | .isNotIn => v.literalBatches.map (batchesText left true)
    | _ => v.literal.map fun literal => left ++ ' ' :: comparison.operator ++ ' ' :: literal

theorem conditionText_eq (column : Text) (comparison : Comparison) (value? : Option Value) (textCast : Bool) :
    conditionText column comparison value? textCast =
      comparisonText (comparandWith serverCast column textCast) comparison value? := rfl

section Conditions

variable {left left' : Text}

private theorem stays_operator (comparison : Comparison) : Stays (' ' :: comparison.operator) :=
  stays_of_isInert (by cases comparison <;> decide)

private theorem Lite.Recasts.batchText (h : Recasts left left') (comparison : Comparison) {batch : Text}
    (hbatch : Stays batch) :
    Recasts (batchText left comparison.operator batch) (batchText left' comparison.operator batch) :=
  (((h.append (stays_operator comparison)).append (stays_of_isInert (by decide))).append hbatch).append
    (stays_of_isInert (by decide))

private theorem Lite.Recasts.batchesText (h : Recasts left left') (negated : Bool) {batches : List Text}
    (hbatches : ∀ batch ∈ batches, Stays batch) :
    Recasts (batchesText left negated batches) (batchesText left' negated batches) := by
  obtain ⟨comparison, hcomparison⟩ : ∃ comparison : Comparison, comparison.operator =
      if negated then Comparison.isNotIn.operator else Comparison.isIn.operator := by
    cases negated
    · exact ⟨.isIn, rfl⟩
    · exact ⟨.isNotIn, rfl⟩
  match batches with
  | [] =>
    have hinert : isInert (if negated then "1=1".toList else "1=0".toList) = true := by cases negated <;> decide
    exact stays_of_isInert hinert
  | [batch] =>
    unfold EntityStore.batchesText
    rw [← hcomparison]
    exact h.batchText comparison (hbatches batch (List.mem_singleton_self batch))
  | first :: second :: rest =>
    unfold EntityStore.batchesText
    rw [← hcomparison]
    exact (recasts_joinWith (by cases negated <;> decide) fun batch hbatch =>
      h.batchText comparison (hbatches batch hbatch)).enclose

private theorem recasts_comparandWith {column : Text} (textCast : Bool) (h : ¬castMark <:+: column) :
    Recasts (comparandWith serverCast column textCast) (comparandWith liteCast column textCast) := by
  cases textCast with
  | false => exact stays_bracket h
  | true => exact Lite.recasts_serverCast column

section Values

variable {v : Value} {comparison : Comparison} {t : Text}

private theorem exists_recastScalar (h : Recasts left left') (hfree : ∀ u ∈ v.freeText?, ¬castMark <:+: u)
    (ht : v.literal.map (fun literal => left ++ ' ' :: comparison.operator ++ ' ' :: literal) = .ok t) :
    ∃ u, v.literal.map (fun literal => left' ++ ' ' :: comparison.operator ++ ' ' :: literal) = .ok u ∧
      Recasts t u := by
  obtain ⟨literal, hliteral, rfl⟩ := map_eq_ok_iff.mp ht
  have hspace : Stays [' '] := stays_of_isInert (by decide)
  exact ⟨_, map_eq_ok_iff.mpr ⟨literal, hliteral, rfl⟩,
    (h.append (stays_operator comparison)).append (hspace.append (Value.stays_literal hliteral hfree))⟩

private theorem exists_recastPattern (h : Recasts left left') (hfree : ∀ u ∈ v.freeText?, ¬castMark <:+: u)
    (ht : v.literal.map (fun literal => left ++ ' ' :: comparison.operator ++ " '%".toList ++ Text.dropQuotes literal ++
      "%'".toList) = .ok t) :
    ∃ u, v.literal.map (fun literal => left' ++ ' ' :: comparison.operator ++ " '%".toList ++ Text.dropQuotes literal ++
      "%'".toList) = .ok u ∧ Recasts t u := by
  obtain ⟨literal, hliteral, rfl⟩ := map_eq_ok_iff.mp ht
  have hpattern := (h.append (stays_operator comparison)).append (Value.stays_pattern hliteral hfree)
  refine ⟨_, map_eq_ok_iff.mpr ⟨literal, hliteral, rfl⟩, ?_⟩
  simpa only [List.append_assoc] using hpattern

/-- A membership in an empty list writes neither the column nor a value. -/
private theorem exists_recastMembership {column : Text} {textCast negated : Bool}
    (hinputs : v.leaves = [] ∨
      (¬castMark <:+: column ∧ ∀ u ∈ v.leaves.filterMap Value.freeText?, ¬castMark <:+: u))
    (ht : v.literalBatches.map (batchesText (comparandWith serverCast column textCast) negated) = .ok t) :
    ∃ u, v.literalBatches.map (batchesText (comparandWith liteCast column textCast) negated) = .ok u ∧
      Recasts t u := by
  obtain ⟨batches, hbatches, rfl⟩ := map_eq_ok_iff.mp ht
  refine ⟨_, map_eq_ok_iff.mpr ⟨batches, hbatches, rfl⟩, ?_⟩
  rcases hinputs with hnone | ⟨hcolumn, hfree⟩
  · obtain rfl := (Value.literalBatches_eq_nil_iff hbatches).mpr hnone
    have hinert : isInert (if negated then "1=1".toList else "1=0".toList) = true := by cases negated <;> decide
    exact stays_of_isInert hinert
  · exact (recasts_comparandWith textCast hcolumn).batchesText negated (Value.stays_literalBatches hbatches hfree)

end Values

/-- A condition is written with the other cast, too, and the rewriting makes the one text into the other. -/
private theorem exists_comparisonText {column : Text} {comparison : Comparison} {value? : Option Value}
    {textCast : Bool} {t : Text} (h : conditionText column comparison value? textCast = .ok t)
    (hinputs : ∀ input ∈ comparison.inputs column value?, ¬castMark <:+: input) :
    ∃ u, comparisonText (comparandWith liteCast column textCast) comparison value? = .ok u ∧ Recasts t u := by
  rw [conditionText_eq] at h
  cases value? with
  | none =>
    obtain rfl := Except.ok.inj h
    have hcolumn := hinputs column (List.mem_singleton_self column)
    exact ⟨_, rfl, (recasts_comparandWith textCast hcolumn).append (stays_operator comparison)⟩
  | some v =>
    rw [Comparison.forall_mem_inputs] at hinputs
    have hsingle (hoperands : comparison.operands v = [v]) :
        Recasts (comparandWith serverCast column textCast) (comparandWith liteCast column textCast) ∧
          ∀ u ∈ v.freeText?, ¬castMark <:+: u := by
      rw [hoperands] at hinputs
      obtain ⟨hcolumn, hfree⟩ := hinputs.resolve_left (List.cons_ne_nil v [])
      refine ⟨recasts_comparandWith textCast hcolumn, fun u hu => hfree u ?_⟩
      exact List.mem_filterMap.mpr ⟨v, List.mem_singleton_self v, hu⟩
    cases comparison with
    | isIn => exact exists_recastMembership hinputs h
    | isNotIn => exact exists_recastMembership hinputs h
    | like =>
      obtain ⟨hleft, hfree⟩ := hsingle rfl
      exact exists_recastPattern hleft hfree h
    | notLike =>
      obtain ⟨hleft, hfree⟩ := hsingle rfl
      exact exists_recastPattern hleft hfree h
    | _ =>
      obtain ⟨hleft, hfree⟩ := hsingle rfl
      exact exists_recastScalar hleft hfree h

end Conditions

/-! ### Links -/

mutual

/-- The text of a link without its joint, with the given form of cast. -/
def Link.bodyWith (cast : Text → Text) : Link → Except Error Text
  | .condition _ c => comparisonText (comparandWith cast c.column c.textCast) c.comparison c.value?
  | .group _ links => (linksTextWith cast true links).map fun t => '(' :: t ++ [')']

/-- The text of links in order, with the given form of cast. -/
def linksTextWith (cast : Text → Text) (atStart : Bool) : List Link → Except Error Text
  | [] => .ok []
  | link :: rest => do
    let body ← link.bodyWith cast
    let others ← linksTextWith cast false rest
    .ok ((if atStart then [] else link.joint.separator) ++ body ++ others)

end

mutual

private theorem Link.bodyWith_serverCast : (link : Link) → link.bodyWith serverCast = .ok link.body
  | .condition _ c => by
    rw [Link.bodyWith, Link.body, ← conditionText_eq]
    exact c.sql_eq
  | .group _ links => by
    rw [Link.bodyWith, Link.body, linksTextWith_serverCast true links]
    rfl

/-- With the cast of the server, links have the text that they have in statements. -/
theorem linksTextWith_serverCast (atStart : Bool) : (links : List Link) →
    linksTextWith serverCast atStart links = .ok (linksText atStart links)
  | [] => by rw [linksTextWith, linksText]
  | link :: rest => by
    rw [linksTextWith, linksText, link.bodyWith_serverCast, linksTextWith_serverCast false rest]
    rfl

end

mutual

private theorem Link.exists_bodyWith : (link : Link) → (∀ input ∈ link.inputs, ¬castMark <:+: input) →
    ∃ u, link.bodyWith liteCast = .ok u ∧ Recasts link.body u
  | .condition _ c => by
    intro hinputs
    rw [Link.inputs] at hinputs
    rw [Link.bodyWith, Link.body]
    exact exists_comparisonText c.sql_eq hinputs
  | .group _ links => by
    intro hinputs
    rw [Link.inputs] at hinputs
    obtain ⟨u, hu, hrecasts⟩ := exists_linksTextWith true links hinputs
    rw [Link.bodyWith, Link.body, hu]
    exact ⟨_, rfl, hrecasts.enclose⟩

/-- Links are written with the other cast, too, and the rewriting makes the one text into the other. -/
theorem exists_linksTextWith (atStart : Bool) : (links : List Link) →
    (∀ input ∈ linksInputs links, ¬castMark <:+: input) →
      ∃ u, linksTextWith liteCast atStart links = .ok u ∧ Recasts (linksText atStart links) u
  | [] => by
    intro _
    rw [linksTextWith, linksText]
    exact ⟨[], rfl, stays_of_isInert rfl⟩
  | link :: rest => by
    intro hinputs
    rw [linksInputs, List.forall_mem_append] at hinputs
    obtain ⟨body, hbody, hrecasts⟩ := link.exists_bodyWith hinputs.1
    obtain ⟨others, hothers, hrecasts'⟩ := exists_linksTextWith false rest hinputs.2
    have hseparator : isInert (if atStart then [] else link.joint.separator) = true := by
      cases atStart with
      | true => rfl
      | false => cases link.joint <;> decide
    rw [linksTextWith, linksText, hbody, hothers]
    exact ⟨_, rfl, ((stays_of_isInert hseparator).append hrecasts).append hrecasts'⟩

end

/-! ### Statements -/

namespace Entity

variable {e : Entity}

private theorem stays_tableText (h : ∀ name ∈ e.storedNames, ¬castMark <:+: name) : Stays e.tableText := by
  have hschema := h e.schema (by simp [storedNames])
  have htable := stays_bracket (h e.table (by simp [storedNames]))
  unfold tableText Text.bracketTable
  split
  · exact htable
  · exact (stays_bracket hschema).append ((stays_of_isInert (s := ['.']) rfl).append htable)

end Entity

namespace Repository

variable {e : Entity} {t u : Text}

private theorem recasts_selectWhereSql (hnames : ∀ name ∈ e.storedNames, ¬castMark <:+: name) (h : Recasts t u) :
    Recasts (selectWhereSql e t) (selectWhereSql e u) := by
  have hcolumns : Stays (Text.joinWith ", ".toList (e.columns.map fun c => Text.bracket c.name)) := by
    refine recasts_joinWith (by decide) fun c hc => stays_bracket (hnames c.name ?_)
    exact List.mem_cons_of_mem _ (List.mem_cons_of_mem _ (List.mem_map_of_mem hc))
  have hselect : Stays "SELECT ".toList := stays_of_isInert (by decide)
  have hfrom : Stays " FROM ".toList := stays_of_isInert (by decide)
  have hall : Stays (selectAllSql e) := ((hselect.append hcolumns).append hfrom).append (e.stays_tableText hnames)
  exact (hall.append (stays_of_isInert (by decide))).append h

private theorem recasts_deleteWhereSql (hnames : ∀ name ∈ e.storedNames, ¬castMark <:+: name) (h : Recasts t u) :
    Recasts (deleteWhereSql e t) (deleteWhereSql e u) := by
  have hdelete : Stays "DELETE FROM ".toList := stays_of_isInert (by decide)
  exact ((hdelete.append (e.stays_tableText hnames)).append (stays_of_isInert (by decide))).append h

end Repository

namespace Operation

variable {α : Type}

/-- The steps of the clause by which an operation selects, and what stands around the text of the clause. -/
def byClause? (e : Entity) : Operation α → Option ((Text → Text) × List Step)
  | whereSteps steps => some (Repository.selectWhereSql e, steps)
  | whereColumn column comparison v =>
    some (Repository.selectWhereSql e, [.condition .initial column comparison (some v)])
  | whereEqual criteria => some (Repository.selectWhereSql e, Repository.equalitySteps criteria)
  | deleteIn column values => some (Repository.deleteWhereSql e, [.condition .initial column .isIn (some values)])
  | _ => none

variable {e : Entity} {op : Operation α} {around : Text → Text} {steps : List Step} {statements : List Statement}
  {st : Statement}

/-- A statement of such an operation is its clause with what stands around it. -/
private theorem exists_toText (hop : op.byClause? e = some (around, steps)) (h : op.statements e = .ok statements)
    (hst : st ∈ statements) : ∃ text, (Repository.clause e steps).toText = .ok text ∧ st.sql = around text := by
  have hselect {steps' : List Step} (hsteps : (Repository.selectWhereSql e, steps') = (around, steps))
      (h : ((Repository.queryText e (Repository.clause e steps')).map fun sql => [queryOf sql]) = .ok statements) :
      ∃ text, (Repository.clause e steps).toText = .ok text ∧ st.sql = around text := by
    obtain ⟨rfl, rfl⟩ := Prod.mk.inj hsteps
    obtain ⟨sql, hsql, rfl⟩ := map_eq_ok_iff.mp h
    obtain ⟨text, htext, rfl⟩ := map_eq_ok_iff.mp hsql
    exact ⟨text, htext, congrArg Statement.sql (List.mem_singleton.mp hst)⟩
  cases op with
  | whereSteps steps' => exact hselect (Option.some.inj hop) h
  | whereColumn column comparison v => exact hselect (Option.some.inj hop) h
  | whereEqual criteria =>
    cases criteria with
    | nil =>
      obtain rfl := Except.ok.inj h
      exact absurd hst List.not_mem_nil
    | cons criterion rest => exact hselect (Option.some.inj hop) h
  | deleteIn column values =>
    obtain ⟨rfl, rfl⟩ := Prod.mk.inj (Option.some.inj hop)
    obtain ⟨text, htext, rfl⟩ := map_eq_ok_iff.mp h
    exact ⟨text, htext, congrArg Statement.sql (List.mem_singleton.mp hst)⟩
  | _ => cases hop

/-- What stands around a clause stays as it is when the casts are rewritten, and it is no insertion. -/
private theorem adapt_around (hop : op.byClause? e = some (around, steps))
    (hnames : ∀ name ∈ e.storedNames, ¬castMark <:+: name) {t u : Text} (h : Recasts t u) :
    Lite.adapt (around t) = around u := by
  have hselect (hsteps : Repository.selectWhereSql e = around) : Lite.adapt (around t) = around u := by
    have hrecasts := Repository.recasts_selectWhereSql hnames h
    obtain ⟨rest, hrest⟩ : ∃ rest, Repository.selectWhereSql e t = 'S' :: rest := ⟨_, rfl⟩
    rw [← hsteps, hrest, Lite.adapt_cons (by decide) (by decide), ← hrest, hrecasts.castsFrom?_eq, Option.getD_some]
  cases op with
  | whereSteps steps' => exact hselect (Prod.mk.inj (Option.some.inj hop)).1
  | whereColumn column comparison v => exact hselect (Prod.mk.inj (Option.some.inj hop)).1
  | whereEqual criteria => exact hselect (Prod.mk.inj (Option.some.inj hop)).1
  | deleteIn column values =>
    have hrecasts := Repository.recasts_deleteWhereSql hnames h
    obtain ⟨rest, hrest⟩ : ∃ rest, Repository.deleteWhereSql e t = 'D' :: rest := ⟨_, rfl⟩
    obtain ⟨rfl, rfl⟩ := Prod.mk.inj (Option.some.inj hop)
    rw [hrest, Lite.adapt_cons (by decide) (by decide), ← hrest, hrecasts.castsFrom?_eq, Option.getD_some]
  | _ => cases hop

/-- In a statement that selects or deletes by a clause, the dialect writes the casts of the clause in its own form and
changes nothing else, if no name and no text says how a cast begins. -/
theorem adapt_recasts (hop : op.byClause? e = some (around, steps)) (h : op.statements e = .ok statements)
    (hst : st ∈ statements) (hnames : ∀ name ∈ e.storedNames, ¬castMark <:+: name)
    (hinputs : ∀ s ∈ steps, ∀ input ∈ s.inputs, ¬castMark <:+: input) :
    ∃ text recast, linksTextWith serverCast true (Repository.clause e steps).links = .ok text ∧
      linksTextWith liteCast true (Repository.clause e steps).links = .ok recast ∧
      st.sql = around text ∧ Lite.adapt st.sql = around recast := by
  obtain ⟨text, htext, hsql⟩ := exists_toText hop h hst
  obtain ⟨herror, hgroups, rfl⟩ := Clause.toText_eq_ok_iff.mp htext
  have hlinks : linksInputs (Repository.clause e steps).links = steps.flatMap Step.inputs := by
    have hrun : (Repository.clause e steps).inputs = [] ++ steps.flatMap Step.inputs := Clause.inputs_run herror
    simpa [Clause.inputs, hgroups, Clause.groupsInputs, linksInputs] using hrun
  have hclause : ∀ input ∈ linksInputs (Repository.clause e steps).links, ¬castMark <:+: input := by
    intro input hinput
    obtain ⟨s, hs, hinput⟩ := List.mem_flatMap.mp (hlinks ▸ hinput)
    exact hinputs s hs input hinput
  obtain ⟨recast, hrecast, hrecasts⟩ := exists_linksTextWith true _ hclause
  exact ⟨_, recast, linksTextWith_serverCast true _, hrecast, hsql, hsql ▸ adapt_around hop hnames hrecasts⟩

/-- Two casts of a column with brackets and parentheses in its name, one of them in a group, beside names and texts that
have parts of what would begin a cast. -/
theorem adapt_recasts_nested :
    let e : Entity := ⟨[], "s(".toList, "t]".toList, [{ name := "[D])".toList, type := ⟨.xml, true⟩ }]⟩
    let steps : List Step :=
      [.condition .initial "[D])".toList .like (some (.char '(')),
        .beginGroup .or "CONVERT(".toList .isNull none,
        .condition .and "[D])".toList .equals (some (.xml "MAX), ".toList)), .endGroup]
    let op : Operation (List Record) := .whereSteps steps
    let sql := Repository.selectWhereSql e ("CONVERT(NVARCHAR(MAX), [[D]])]) LIKE '%(%' OR ".toList ++
      "([CONVERT(] IS NULL AND CONVERT(NVARCHAR(MAX), [[D]])]) = 'MAX), ')".toList)
    op.statements e = .ok [queryOf sql] ∧
      Lite.adapt sql = Repository.selectWhereSql e ("CAST([[D]])] AS TEXT) LIKE '%(%' OR ".toList ++
        "([CONVERT(] IS NULL AND CAST([[D]])] AS TEXT) = 'MAX), ')".toList) := by
  intro e steps op sql
  have hop : op.byClause? e = some (Repository.selectWhereSql e, steps) := rfl
  have hstatements : op.statements e = .ok [queryOf sql] := by rfl
  have hlite : linksTextWith liteCast true (Repository.clause e steps).links =
      .ok ("CAST([[D]])] AS TEXT) LIKE '%(%' OR ".toList ++
        "([CONVERT(] IS NULL AND CAST([[D]])] AS TEXT) = 'MAX), ')".toList) := by rfl
  have hletter : ∀ s ∈ steps, ∀ input ∈ s.inputs, 'H' ∉ input := by decide
  have hinputs : ∀ s ∈ steps, ∀ input ∈ s.inputs, ¬castMark <:+: input :=
    fun s hs input hinput hmark => hletter s hs input hinput (hmark.subset (by decide))
  obtain ⟨_, recast, -, hrecast, -, hadapt⟩ :=
    adapt_recasts hop hstatements (List.mem_singleton_self _) (by decide) hinputs
  obtain rfl := Except.ok.inj (hrecast.symm.trans hlite)
  exact ⟨hstatements, hadapt⟩

end Operation

end EntityStore
