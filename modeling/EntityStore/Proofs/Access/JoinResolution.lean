import EntityStore.Proofs.Access.JoinChain
import EntityStore.Proofs.Access.JoinScope
import Mathlib.Data.List.Nodup

/-!
# Every column of a join finds its member

In a chain whose predicates take their columns from handles, each column that a predicate of the statement speaks of is
declared by the member that its handle means, and stands under the alias of that member, which was introduced by then
(`JoinChain.resolution_ofJoinings`).  A chain has no statement exactly if one of its predicates has no text; the first
one that has none says why.
-/

namespace EntityStore

namespace JoinChain

open Joining

variable {root : Entity} {joinings : List Joining} {chain : JoinChain}

/-! ### Failures -/

private theorem sql_eq_error_iff (err : Error) : chain.sql = .error err ↔ chain.error? = some err := by
  rw [sql]
  split <;> simp_all

theorem Follows.sql_eq_error_iff (h : Follows root joinings chain) (err : Error) :
    chain.sql = .error err ↔ ∃ k, FirstFault (fault? root) joinings k err := by
  rw [JoinChain.sql_eq_error_iff]
  refine ⟨h.failure err, ?_⟩
  rintro ⟨k, hfirst⟩
  cases herror : chain.error? with
  | none =>
    obtain ⟨joining, hk, hfault⟩ := hfirst.fails
    simp [h.faultless herror k joining hk] at hfault
  | some err' =>
    obtain ⟨k', hfirst'⟩ := h.failure err' herror
    rw [(hfirst.unique hfirst').2]

private theorem Follows.exists_sql_eq_error_iff (h : Follows root joinings chain) :
    (∃ err, chain.sql = .error err) ↔
      ∃ (k : Nat) (joining : Joining), joinings[k]? = some joining ∧
        ∃ err, joining.predicateText root (joinings.take k) = .error err := by
  constructor
  · rintro ⟨err, herr⟩
    obtain ⟨k, hfirst⟩ := (h.sql_eq_error_iff err).mp herr
    obtain ⟨joining, hk, hfault⟩ := hfirst.fails
    exact ⟨k, joining, hk, err, failure?_eq_some_iff.mp hfault⟩
  · rintro ⟨k, joining, hk, err, hfails⟩
    rw [exists_error_iff_not_ok]
    rintro ⟨t, hsql⟩
    have hnone := h.faultless (error?_of_sql hsql) k joining hk
    simp [fault?, hfails] at hnone

/-! ### Tables -/

/-- The tables of the statement are those of the members in order, each under the alias of its position. -/
theorem Follows.getElem?_tables (h : Follows root joinings chain) (i : Nat) :
    chain.statement.tables[i]? = chain.members[i]?.map fun e => e.aliased (memberAlias i) := by
  cases i with
  | zero => rfl
  | succ k =>
    rw [statement, JoinStatement.tables, members, List.getElem?_cons_succ, List.getElem?_cons_succ, List.getElem?_map,
      List.getElem?_map, List.getElem?_map]
    cases hstep : chain.steps[k]? with
    | none => rfl
    | some step =>
      obtain ⟨joining, hjoining, hfollows, -⟩ := h.getElem?_joinings hstep
      have hk := (List.getElem?_eq_some_iff.mp hjoining).1
      have htable := hfollows.tableAlias_eq
      rw [List.length_take, Nat.min_eq_left (Nat.le_of_lt hk)] at htable
      simp [JoinStep.joined, htable]

private theorem Follows.length_members (h : Follows root joinings chain) :
    chain.members.length = joinings.length + 1 := by
  simp [h.members_eq]

private theorem Follows.map_tableAlias (h : Follows root joinings chain) :
    chain.statement.tables.map AliasedTable.tableAlias = (List.range (joinings.length + 1)).map memberAlias := by
  apply List.ext_getElem?
  intro i
  rw [List.getElem?_map, h.getElem?_tables, List.getElem?_map, Option.map_map]
  by_cases hi : i < joinings.length + 1
  · rw [List.getElem?_range hi, List.getElem?_eq_getElem (by rw [h.length_members]; exact hi)]
    rfl
  · rw [List.getElem?_eq_none (by rw [h.length_members]; omega), List.getElem?_eq_none (by simp; omega)]
    rfl

/-! ### Columns -/

private theorem length_scope {k : Nat} {joining : Joining} (hk : joinings[k]? = some joining) :
    (joining.scope root (joinings.take k)).members.length = k + 2 := by
  have hlt := (List.getElem?_eq_some_iff.mp hk).1
  simp [Joining.scope]
  omega

private theorem Follows.scope_eq (h : Follows root joinings chain) {k : Nat} {joining : Joining}
    (hk : joinings[k]? = some joining) :
    (joining.scope root (joinings.take k)).members = chain.members.take (k + 2) := by
  rw [h.members_eq, List.take_succ_cons, ← List.map_take, List.take_add_one, hk]
  simp [Joining.scope]

/-- A column that a joining takes from a handle: it is declared by the member that the handle means, which stands in
the chain no later than the joined one, and has the alias of that member. -/
def Resolved (root : Entity) (joinings : List Joining) (k : Nat) (joining : Joining) (col : Option Text × Text) :
    Prop :=
  ∃ (handle : Handle) (i : Nat) (e : Entity),
    (handle.param (joining.scope root (joinings.take k))).col col.2 ∈
      (joining.predicate root (joinings.take k)).columns ∧
    handle.Means (joining.scope root (joinings.take k)) i ∧ i ≤ k + 1 ∧
    (ofJoinings root joinings).members[i]? = some e ∧ col.1 = some (memberAlias i) ∧ (e.column? col.2).isSome = true

/-- A joining whose predicate has no text: it is no truth value, some part of it is not known, or one of its columns
is not declared by the member that its handle means. -/
def Untranslatable (root : Entity) (joinings : List Joining) (k : Nat) (joining : Joining) : Prop :=
  (joining.predicate root (joinings.take k)).isBoolean = false ∨
  (joining.predicate root (joinings.take k)).isSupported = false ∨
  ∃ handle name, Handle.Unresolved (joining.scope root (joinings.take k)) handle name ∧
    (handle.param (joining.scope root (joinings.take k))).col name ∈
      (joining.predicate root (joinings.take k)).columns

/-- What the predicates of a chain speak of, if all of them take their columns from handles. -/
structure Resolution (root : Entity) (joinings : List Joining) : Prop where
  length_steps : (ofJoinings root joinings).steps.length = joinings.length
  /-- Every step has the alias of its position, and the aliases of all members up to it and of nothing else. -/
  aliases : ∀ k step, (ofJoinings root joinings).steps[k]? = some step → step.tableAlias = memberAlias (k + 1) ∧
    ∀ param tableAlias, step.aliases.find? param = some tableAlias ↔
      ∃ i ≤ k + 1, param = memberParam i ∧ tableAlias = memberAlias i
  nodup : ((List.range (joinings.length + 1)).map memberAlias).Nodup
  /-- The statement introduces every member once and in order, and each predicate speaks of members up to its own. -/
  statement : ∀ t, (ofJoinings root joinings).sql = .ok t → ∃ st, JoinStatement.read? t = some st ∧
    st.tables.map AliasedTable.tableAlias = (List.range (joinings.length + 1)).map memberAlias ∧
    (∀ i, st.tables[i]? = (ofJoinings root joinings).members[i]?.map fun (e : Entity) => e.aliased (memberAlias i)) ∧
    ∀ (k : Nat) (j : JoinedTable), st.joined[k]? = some j → ∃ joining, joinings[k]? = some joining ∧
      j.kind = joining.kind ∧ ∀ col ∈ j.on.columns, Resolved root joinings k joining col
  /-- There is no statement exactly if some predicate has no text. -/
  untranslatable : (∃ err, (ofJoinings root joinings).sql = .error err) ↔
    ∃ (k : Nat) (joining : Joining), joinings[k]? = some joining ∧ Untranslatable root joinings k joining
  /-- The first predicate without text is why there is no statement, whatever follows it. -/
  failure : ∀ err, (ofJoinings root joinings).sql = .error err ↔ ∃ k, FirstFault (fault? root) joinings k err

private theorem Follows.aliases (h : Follows root joinings chain) {k : Nat} {step : JoinStep}
    (hstep : chain.steps[k]? = some step) :
    step.tableAlias = memberAlias (k + 1) ∧ ∀ param tableAlias, step.aliases.find? param = some tableAlias ↔
      ∃ i ≤ k + 1, param = memberParam i ∧ tableAlias = memberAlias i := by
  obtain ⟨joining, hk, hfollows, -⟩ := h.getElem?_joinings hstep
  have hlt := (List.getElem?_eq_some_iff.mp hk).1
  refine ⟨?_, fun param tableAlias => ?_⟩
  · rw [hfollows.tableAlias_eq, List.length_take, Nat.min_eq_left (Nat.le_of_lt hlt)]
  · rw [hfollows.aliases_eq, JoinScope.find?_aliases_iff, length_scope hk]
    simp only [Nat.lt_succ_iff]

private theorem resolved_of_mem_columns {k : Nat} {joining : Joining} {f : Formula} {col : Option Text × Text}
    (hcolumns : (joining.predicate root (joinings.take k)).TakesColumnsFrom (joining.scope root (joinings.take k)))
    (hk : joinings[k]? = some joining)
    (hf : (joining.predicate root (joinings.take k)).formula? (joining.scope root (joinings.take k)).aliases .alone =
      some f) (hcol : col ∈ f.columns) : Resolved root joinings k joining col := by
  obtain ⟨handle, i, e, hmeans, he, hmem, halias, hdeclared⟩ :=
    hcolumns.exists_means (Expr.speaksOf_of_mem_columns hf hcol)
  have hi := hmeans.lt_length
  rw [length_scope hk] at hi
  rw [(follows_ofJoinings root joinings).scope_eq hk, List.getElem?_take, if_pos hi] at he
  exact ⟨handle, i, e, hmem, hmeans, by omega, he, halias, hdeclared⟩

/-- Every column of a predicate is that of the member which its handle means, and what is wrong with the first
predicate that has no text is what is wrong with the chain. -/
theorem resolution_ofJoinings (root : Entity) (joinings : List Joining)
    (hcolumns : ∀ (k : Nat) (joining : Joining), joinings[k]? = some joining →
      (joining.predicate root (joinings.take k)).TakesColumnsFrom (joining.scope root (joinings.take k))) :
    Resolution root joinings := by
  have h := follows_ofJoinings root joinings
  have huntranslatable : (∃ err, (ofJoinings root joinings).sql = .error err) ↔
      ∃ (k : Nat) (joining : Joining), joinings[k]? = some joining ∧ Untranslatable root joinings k joining := by
    rw [h.exists_sql_eq_error_iff]
    exact exists_congr fun k => exists_congr fun joining =>
      and_congr_right fun hk => (hcolumns k joining hk).exists_error_iff _
  refine ⟨h.length_eq, fun k step => h.aliases, List.Nodup.map memberAlias_injective List.nodup_range, fun t hsql => ?_,
    huntranslatable, h.sql_eq_error_iff⟩
  refine ⟨_, h.read?_sql hsql, h.map_tableAlias, h.getElem?_tables, fun k j hj => ?_⟩
  rw [JoinChain.statement, List.getElem?_map, Option.map_eq_some_iff] at hj
  obtain ⟨step, hstep, rfl⟩ := hj
  obtain ⟨joining, f, hk, hf, hwrites⟩ := h.exists_writes (error?_of_sql hsql) hstep
  obtain ⟨joining', hk', hfollows, -⟩ := h.getElem?_joinings hstep
  obtain rfl : joining = joining' := by simpa [hk] using hk'
  refine ⟨joining, hk, hfollows.kind_eq, fun col hcol => ?_⟩
  rw [JoinStep.joined, ← hwrites.text_eq, Formula.read?_text hwrites.isProper, Option.getD_some] at hcol
  exact resolved_of_mem_columns (hcolumns k joining hk) hk hf hcol

/-- An entity that is joined to itself twice: at the second join its last member is the third of the chain. -/
theorem resolution_ofJoinings_twice :
    let e : Entity := ⟨['E'], [], "t]".toList, [{ name := ['i'], type := ⟨.int64, false⟩ }]⟩
    let equal (left right : Handle) : Joining := ⟨.left, e, fun scope =>
      .binary .equal ((left.param scope).col ['i']) ((right.param scope).col ['i'])⟩
    let joinings := [equal .joined (.position 0), equal (.latest e) (.position 1)]
    Resolution e joinings ∧ (ofJoinings e joinings).sql.toOption = some
      ("SELECT [c0].[i] AS 'E__i', [c1].[i] AS 'E__i', [c2].[i] AS 'E__i' FROM [t]]] c0".toList ++
        " LEFT OUTER JOIN [t]]] c1 ON ([c1].[i] = [c0].[i])".toList ++
        " LEFT OUTER JOIN [t]]] c2 ON ([c2].[i] = [c1].[i])".toList) := by
  intro e equal joinings
  refine ⟨resolution_ofJoinings e joinings fun k joining hk => ?_, by decide +kernel⟩
  have hmem := List.mem_of_getElem? hk
  rw [List.mem_pair] at hmem
  rcases hmem with rfl | rfl <;> exact Handle.takesColumnsFrom_binary _ _ _ _ _ _

end JoinChain

end EntityStore
