import EntityStore.Proofs.Query.ClauseFailure
import EntityStore.Proofs.Sql.ValueComment

/-!
# Comment marks in clauses

What comes from outside into a clause are the names of its columns and the strings, characters and documents that
they are compared with.  A clause holds, in order, what its steps put in (`Clause.inputs_run`), and its text has a
comment mark if and only if one of these inputs has (`isUncommented_linksText`): operators, joints, parentheses and
the commas of a list are calm at their ends, and numbers, dates and guids have no mark of their own.

The guard therefore refuses a clause for what the caller put into it and for nothing else
(`Clause.isSuspect_toText_iff`).
-/

namespace EntityStore

/-! ### Memberships -/

private theorem isCalm_operator (comparison : Comparison) : ∀ c ∈ ' ' :: comparison.operator, isCalm c = true := by
  cases comparison <;> decide

/-- Whatever is compared with a batch, the operator keeps it apart from the literals. -/
theorem isUncommented_batchText (left : Text) (comparison : Comparison) (batch : Text) :
    IsUncommented (batchText left comparison.operator batch) ↔ IsUncommented left ∧ IsUncommented batch := by
  have hbatch : ClearIff (" (".toList ++ (batch ++ ")".toList)) (IsUncommented batch) :=
    clearIff_calm_append (by decide) (by decide) (isUncommented_append_calm (by decide))
  have hoperator := (clearIff_of_isCalm (isCalm_operator comparison)).append hbatch
  have hsplit : batchText left comparison.operator batch =
      left ++ (' ' :: comparison.operator ++ (" (".toList ++ (batch ++ ")".toList))) := by
    simp only [batchText, List.append_assoc, List.cons_append]
  rw [hsplit, isUncommented_append hoperator.isCalm_head, hoperator.iff, true_and]

/-- Without batches nothing is compared. -/
theorem isUncommented_batchesText (left : Text) (negated : Bool) (batches : List Text) :
    IsUncommented (batchesText left negated batches) ↔
      batches = [] ∨ (IsUncommented left ∧ ∀ batch ∈ batches, IsUncommented batch) := by
  obtain ⟨comparison, hcomparison⟩ : ∃ comparison : Comparison, comparison.operator =
      if negated then Comparison.isNotIn.operator else Comparison.isIn.operator := by
    cases negated
    · exact ⟨.isIn, rfl⟩
    · exact ⟨.isNotIn, rfl⟩
  match batches with
  | [] =>
    have hcalm : ∀ c ∈ if negated then "1=1".toList else "1=0".toList, isCalm c = true := by
      cases negated <;> decide
    exact iff_of_true (isUncommented_of_isCalm hcalm) (.inl rfl)
  | [batch] =>
    rw [batchesText, ← hcomparison, isUncommented_batchText]
    simp
  | first :: second :: rest =>
    have hjoint : (if negated then " AND ".toList else " OR ".toList) ≠ [] ∧
        ∀ c ∈ if negated then " AND ".toList else " OR ".toList, isCalm c = true := by
      cases negated <;> decide
    have htexts : IsUncommented (Text.joinWith (if negated then " AND ".toList else " OR ".toList)
        ((first :: second :: rest).map (batchText left comparison.operator))) ↔
          IsUncommented left ∧ ∀ batch ∈ first :: second :: rest, IsUncommented batch := by
      rw [isUncommented_joinWith hjoint.1 hjoint.2, List.forall_mem_map]
      simp only [isUncommented_batchText]
      exact ⟨fun h => ⟨(h first (List.mem_cons_self ..)).1, fun batch hbatch => (h batch hbatch).2⟩,
        fun h batch hbatch => ⟨h.1, h.2 batch hbatch⟩⟩
    rw [hcomparison] at htexts
    exact ((clearIff_cons (by decide) htexts).append_calm (by decide)).iff.trans (by simp)

/-- A membership begins with what is compared, with a parenthesis or with a digit. -/
private theorem isCalm_head_batchesText {left : Text} (h : ∀ c ∈ left.head?, isCalm c = true) (negated : Bool)
    (batches : List Text) : ∀ c ∈ (batchesText left negated batches).head?, isCalm c = true := by
  match batches with
  | [] =>
    intro c hc
    cases negated <;> exact Option.some.inj hc ▸ (by decide : isCalm '1' = true)
  | [batch] =>
    cases left with
    | nil => exact fun c hc => Option.some.inj hc ▸ (by decide : isCalm ' ' = true)
    | cons d left => exact h
  | first :: second :: rest => exact fun c hc => Option.some.inj hc ▸ (by decide : isCalm '(' = true)

/-! ### Conditions -/

/-- The texts from outside that a comparison writes.  A membership in an empty list does not write its column. -/
def Comparison.inputs (comparison : Comparison) (column : Text) (value? : Option Value) : List Text :=
  match value? with
  | none => [column]
  | some v =>
    match comparison.operands v with
    | [] => []
    | operands => column :: operands.filterMap Value.freeText?

def Condition.inputs (c : Condition) : List Text :=
  c.comparison.inputs c.column c.value?

theorem clearIff_comparand (column : Text) (textCast : Bool) :
    ClearIff (comparand column textCast) (IsUncommented column) := by
  have hname := clearIff_bracket column
  cases textCast with
  | false => exact hname
  | true => exact (clearIff_calm_append (by decide) (by decide) hname.iff).append_calm (by decide)

section Conditions

variable {v : Value} {t : Text}

/-- What a comparison of a column with a text of its own is made of. -/
private theorem ClearIff.compared (column : Text) (textCast : Bool) (comparison : Comparison) {p : Prop}
    (h : ClearIff t p) :
    ClearIff (comparand column textCast ++ ' ' :: comparison.operator ++ t) (IsUncommented column ∧ p) :=
  ((clearIff_comparand column textCast).append_calm (isCalm_operator comparison)).append h

private theorem clearIff_scalar (column : Text) (textCast : Bool) (comparison : Comparison) (h : v.literal = .ok t) :
    ClearIff (comparand column textCast ++ ' ' :: comparison.operator ++ ' ' :: t)
      (IsUncommented column ∧ ∀ u ∈ v.freeText?, IsUncommented u) :=
  .compared column textCast comparison (clearIff_cons (by decide) (Value.isUncommented_literal h))

private theorem clearIff_pattern (column : Text) (textCast : Bool) (comparison : Comparison) (h : v.literal = .ok t) :
    ClearIff (comparand column textCast ++ ' ' :: comparison.operator ++ " '%".toList ++ Text.dropQuotes t ++
        "%'".toList)
      (IsUncommented column ∧ ∀ u ∈ v.freeText?, IsUncommented u) := by
  have hpattern : ClearIff (" '%".toList ++ (Text.dropQuotes t ++ "%'".toList)) (∀ u ∈ v.freeText?, IsUncommented u) :=
    clearIff_calm_append (by decide) (by decide)
      ((isUncommented_append_calm (by decide)).trans (Value.isUncommented_dropQuotes h))
  have htext := hpattern.compared column textCast comparison
  rwa [← List.append_assoc, ← List.append_assoc] at htext

private theorem clearIff_membership (column : Text) (textCast negated : Bool) {batches : List Text}
    (h : v.literalBatches = .ok batches) :
    ClearIff (batchesText (comparand column textCast) negated batches) (v.leaves = [] ∨
      (IsUncommented column ∧ ∀ u ∈ v.leaves.filterMap Value.freeText?, IsUncommented u)) := by
  have hcolumn := clearIff_comparand column textCast
  refine ⟨isCalm_head_batchesText hcolumn.isCalm_head negated batches, ?_⟩
  rw [isUncommented_batchesText, hcolumn.iff, Value.literalBatches_eq_nil_iff h,
    Value.isUncommented_literalBatches h]

theorem Comparison.forall_mem_inputs (comparison : Comparison) (column : Text) (v : Value) (p : Text → Prop) :
    (∀ u ∈ comparison.inputs column (some v), p u) ↔ comparison.operands v = [] ∨
      (p column ∧ ∀ u ∈ (comparison.operands v).filterMap Value.freeText?, p u) := by
  cases hoperands : comparison.operands v with
  | nil => simp [Comparison.inputs, hoperands]
  | cons w rest => simp [Comparison.inputs, hoperands]

/-- The text of a condition has the marks of its inputs. -/
private theorem clearIff_conditionText {column : Text} {comparison : Comparison} {value? : Option Value}
    {textCast : Bool} {sql : Text} (h : conditionText column comparison value? textCast = .ok sql) :
    ClearIff sql (∀ u ∈ comparison.inputs column value?, IsUncommented u) := by
  cases value? with
  | none =>
    obtain rfl := Except.ok.inj h
    exact ((clearIff_comparand column textCast).append_calm (isCalm_operator comparison)).congr
      (by simp [Comparison.inputs])
  | some v =>
    have hsingle (hoperands : comparison.operands v = [v]) :
        (IsUncommented column ∧ ∀ u ∈ v.freeText?, IsUncommented u) ↔
          ∀ u ∈ comparison.inputs column (some v), IsUncommented u := by
      rw [Comparison.forall_mem_inputs, hoperands]
      simp
    have hscalar (hoperands : comparison.operands v = [v])
        (h : v.literal.map (fun t => comparand column textCast ++ ' ' :: comparison.operator ++ ' ' :: t) = .ok sql) :
        ClearIff sql (∀ u ∈ comparison.inputs column (some v), IsUncommented u) := by
      obtain ⟨t, ht, rfl⟩ := map_eq_ok_iff.mp h
      exact (clearIff_scalar column textCast comparison ht).congr (hsingle hoperands)
    cases comparison with
    | isIn =>
      obtain ⟨batches, hbatches, rfl⟩ := map_eq_ok_iff.mp h
      exact (clearIff_membership column textCast false hbatches).congr
        (Comparison.forall_mem_inputs .isIn column v IsUncommented).symm
    | isNotIn =>
      obtain ⟨batches, hbatches, rfl⟩ := map_eq_ok_iff.mp h
      exact (clearIff_membership column textCast true hbatches).congr
        (Comparison.forall_mem_inputs .isNotIn column v IsUncommented).symm
    | like =>
      obtain ⟨t, ht, rfl⟩ := map_eq_ok_iff.mp h
      exact (clearIff_pattern column textCast .like ht).congr (hsingle rfl)
    | notLike =>
      obtain ⟨t, ht, rfl⟩ := map_eq_ok_iff.mp h
      exact (clearIff_pattern column textCast .notLike ht).congr (hsingle rfl)
    | _ => exact hscalar rfl h

end Conditions

/-! ### Links -/

mutual

/-- The texts from outside in a link. -/
def Link.inputs : Link → List Text
  | .condition _ c => c.inputs
  | .group _ links => linksInputs links

/-- The texts from outside in links in order. -/
def linksInputs : List Link → List Text
  | [] => []
  | link :: rest => link.inputs ++ linksInputs rest

end

theorem linksInputs_append (links links' : List Link) :
    linksInputs (links ++ links') = linksInputs links ++ linksInputs links' := by
  induction links with
  | nil => rfl
  | cons link links ih => rw [List.cons_append, linksInputs, linksInputs, ih, List.append_assoc]

private theorem isCalm_separator (joint : Joint) : ∀ c ∈ joint.separator, isCalm c = true := by
  cases joint <;> decide

mutual

private theorem Link.clearIff_body : (link : Link) → ClearIff link.body (∀ u ∈ link.inputs, IsUncommented u)
  | .condition _ c => by
    rw [Link.body, Link.inputs]
    exact clearIff_conditionText c.sql_eq
  | .group _ links => by
    rw [Link.body, Link.inputs]
    exact (clearIff_cons (by decide) (clearIff_linksText true links).iff).append_calm (by decide)

/-- The text of links has the marks of their inputs. -/
theorem clearIff_linksText (atStart : Bool) : (links : List Link) →
    ClearIff (linksText atStart links) (∀ u ∈ linksInputs links, IsUncommented u)
  | [] => by
    rw [linksText, linksInputs]
    exact (clearIff_of_isCalm (by simp)).congr (by simp)
  | link :: rest => by
    have hseparator : ∀ c ∈ if atStart then [] else link.joint.separator, isCalm c = true := by
      cases atStart
      · exact isCalm_separator link.joint
      · exact List.forall_mem_nil _
    -- separator, link and rest begin with calm characters, and so they meet nowhere
    have hlink := ((clearIff_of_isCalm hseparator).append (Link.clearIff_body link)).append
      (clearIff_linksText false rest)
    rw [linksText, linksInputs]
    refine hlink.congr ?_
    rw [true_and, List.forall_mem_append]

end

/-! ### Steps -/

/-- The texts from outside that a step puts into a clause.  A comparison with null takes no value. -/
def Step.inputs : Step → List Text
  | .condition _ column comparison value? =>
    comparison.inputs column (if comparison.isNullCheck then none else value?)
  | .beginGroup _ column comparison value? =>
    comparison.inputs column (if comparison.isNullCheck then none else value?)
  | .endGroup => []

namespace Clause

/-- The texts from outside in open groups, the innermost first. -/
def groupsInputs : List OpenGroup → List Text
  | [] => []
  | g :: outer => groupsInputs outer ++ linksInputs g.links

/-- The texts from outside in a clause under way, in the order in which they were put in. -/
def inputs (w : Clause) : List Text :=
  linksInputs w.links ++ groupsInputs w.groups

private theorem inputs_conditionOf {w : Clause} {column : Text} {comparison : Comparison} {value? : Option Value}
    {c : Condition} (h : w.conditionOf column comparison value? = .ok c) :
    c.inputs = comparison.inputs column (if comparison.isNullCheck then none else value?) := by
  have hoperand {used : Option Value} (h : operand column comparison value? = .ok used) :
      used = if comparison.isNullCheck then none else value? := by
    unfold operand at h
    split
    · next hnull => rw [if_pos hnull] at h; exact (Except.ok.inj h).symm
    · next hnull =>
      rw [if_neg hnull] at h
      cases value? with
      | none => cases h
      | some v =>
        dsimp only at h
        split at h
        · cases h
        · exact (Except.ok.inj h).symm
  unfold conditionOf Condition.make at h
  dsimp only at h
  split at h
  · cases h
  · next used hused =>
    split at h
    · cases h
    · obtain rfl := Except.ok.inj h
      rw [Condition.inputs, ← hoperand hused]

private theorem inputs_push (w : Clause) (link : Link) : (w.push link).inputs = w.inputs ++ link.inputs := by
  have hsingle : linksInputs [link] = link.inputs := by rw [linksInputs, linksInputs, List.append_nil]
  unfold push
  cases hgroups : w.groups with
  | nil =>
    simp only [inputs, hgroups, groupsInputs, linksInputs_append, hsingle, List.append_nil]
  | cons g outer =>
    simp only [inputs, hgroups, groupsInputs, linksInputs_append, hsingle, List.append_assoc]

/-- A step that does not fail adds its inputs to those of the clause. -/
private theorem inputs_step {w : Clause} {s : Step} (h : (w.step s).error? = none) :
    (w.step s).inputs = w.inputs ++ s.inputs := by
  have hmakes := makes_step h
  generalize w.step s = w' at hmakes
  cases hmakes with
  | condition hc =>
    rw [inputs_push, Link.inputs, inputs_conditionOf hc]
    rfl
  | beginGroup hc =>
    have hinputs := inputs_conditionOf hc
    simp [inputs, groupsInputs, linksInputs, Link.inputs, hinputs, Step.inputs]
  | endGroup hgroups =>
    -- what was in the open group is now in the last link around it
    rw [inputs_push, Link.inputs]
    simp [inputs, hgroups, groupsInputs, Step.inputs]

/-- Steps of which none fails add their inputs in order. -/
theorem inputs_run {w : Clause} {steps : List Step} (h : (w.run steps).error? = none) :
    (w.run steps).inputs = w.inputs ++ steps.flatMap Step.inputs := by
  induction steps using List.reverseRecOn with
  | nil => simp [run]
  | append_singleton steps s ih =>
    rw [run_concat] at h ⊢
    rw [inputs_step h, ih (error?_of_step h), List.flatMap_append, List.append_assoc, List.flatMap_singleton]

/-- The guard refuses the text of a clause if and only if a name or a value that a step put into it has a comment
mark. -/
theorem isSuspect_toText_iff (columns : List Column) (steps : List Step) {t : Text}
    (h : (({ columns } : Clause).run steps).toText = .ok t) :
    Guard.isSuspect t = true ↔ ∃ s ∈ steps, ∃ input ∈ s.inputs, ¬IsUncommented input := by
  obtain ⟨herror, hgroups, rfl⟩ := toText_eq_ok_iff.mp h
  have hinputs : linksInputs (({ columns } : Clause).run steps).links = steps.flatMap Step.inputs := by
    have hrun := inputs_run herror
    simpa [inputs, hgroups, groupsInputs, linksInputs] using hrun
  rw [Guard.isSuspect_iff, (clearIff_linksText true _).iff, hinputs]
  simp only [List.mem_flatMap, not_forall, exists_prop]
  constructor
  · rintro ⟨input, ⟨s, hs, hinput⟩, hmark⟩
    exact ⟨s, hs, input, hinput, hmark⟩
  · rintro ⟨s, hs, input, hinput, hmark⟩
    exact ⟨input, ⟨s, hs, hinput⟩, hmark⟩

/-- Hyphens, slashes and asterisks close to each other in different names and values are no marks. -/
theorem isSuspect_toText_iff_neighbours :
    let steps : List Step :=
      [.condition .initial "a-".toList .equals (some (.int (-5))),
        .beginGroup .or "/".toList .like (some (.char '*')),
        .condition .and "*".toList .notEquals (some (.string "/-".toList)), .endGroup]
    (({ columns := [] } : Clause).run steps).toText =
        .ok "[a-] = -5 OR ([/] LIKE '%*%' AND [*] <> '/-')".toList ∧
      ¬∃ s ∈ steps, ∃ input ∈ s.inputs, ¬IsUncommented input := by
  intro steps
  have htext : (({ columns := [] } : Clause).run steps).toText =
      .ok "[a-] = -5 OR ([/] LIKE '%*%' AND [*] <> '/-')".toList := by rfl
  have hclean : ¬Guard.isSuspect "[a-] = -5 OR ([/] LIKE '%*%' AND [*] <> '/-')".toList = true := by decide
  exact ⟨htext, fun hmark => hclean ((isSuspect_toText_iff [] steps htext).mpr hmark)⟩

end Clause

end EntityStore
