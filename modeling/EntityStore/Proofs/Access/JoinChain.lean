import EntityStore.Proofs.Access.JoinStatement
import EntityStore.Proofs.Access.Operation
import EntityStore.Proofs.FirstFault
import EntityStore.Proofs.Query.PredicateReading
import EntityStore.Proofs.Text.Numbers

/-!
# Chains of joins

What joinings one after another leave behind (`JoinChain.follows_ofJoinings`): a step for each of them, with the alias
of its position and the aliases of all members up to it.  The predicate of a joining is a matter of the joinings before
it alone, and the first one that has no text decides the failure of the chain.

A chain without failure has a statement, and reading its text finds the selected columns, tables and predicates that
the members and steps of the chain stand for (`JoinChain.read?_sql`).
-/

namespace EntityStore

namespace Joining

/-- The members that the predicate of a joining may speak of, after earlier joinings. -/
def scope (root : Entity) (earlier : List Joining) (joining : Joining) : JoinScope :=
  ⟨root :: earlier.map Joining.entity ++ [joining.entity]⟩

/-- The predicate of a joining after earlier ones. -/
def predicate (root : Entity) (earlier : List Joining) (joining : Joining) : Expr :=
  joining.on (joining.scope root earlier)

/-- The text of the predicate of a joining, or why it has none. -/
def predicateText (root : Entity) (earlier : List Joining) (joining : Joining) : Except Error Text :=
  (joining.predicate root earlier).predicateText (joining.scope root earlier).aliases

/-- Why the predicate of a joining has no text, if it has none. -/
def fault? (root : Entity) (earlier : List Joining) (joining : Joining) : Option Error :=
  failure? (joining.predicateText root earlier)

end Joining

namespace JoinChain

open Joining

/-! ### One more join -/

/-- A join adds a step.  It leaves a failure as it is, and fails itself only if its predicate has no text. -/
theorem join_cases (chain : JoinChain) (kind : JoinKind) (e : Entity) (predicate : JoinScope → Expr) :
    ∃ on, (chain.join kind e predicate).root = chain.root ∧
      (chain.join kind e predicate).steps = chain.steps ++
        [⟨e, kind, memberAlias (chain.steps.length + 1), on, (JoinScope.mk (chain.members ++ [e])).aliases⟩] ∧
      ((∃ err, chain.error? = some err ∧ (chain.join kind e predicate).error? = some err) ∨
        chain.error? = none ∧
          (predicate ⟨chain.members ++ [e]⟩).predicateText (JoinScope.mk (chain.members ++ [e])).aliases = .ok on ∧
          (chain.join kind e predicate).error? = none ∨
        ∃ err, chain.error? = none ∧
          (predicate ⟨chain.members ++ [e]⟩).predicateText (JoinScope.mk (chain.members ++ [e])).aliases =
            .error err ∧
          (chain.join kind e predicate).error? = some err) := by
  unfold join
  cases herror : chain.error? with
  | some err => exact ⟨[], rfl, rfl, .inl ⟨err, rfl, rfl⟩⟩
  | none =>
    dsimp only
    split
    · next on hon => exact ⟨on, rfl, rfl, .inr (.inl ⟨rfl, hon, rfl⟩)⟩
    · next err herr => exact ⟨[], rfl, rfl, .inr (.inr ⟨err, rfl, herr, rfl⟩)⟩

/-! ### Joins one after another -/

/-- What the step of the joining at a position is. -/
structure StepFollows (root : Entity) (earlier : List Joining) (joining : Joining) (step : JoinStep) : Prop where
  entity_eq : step.entity = joining.entity
  kind_eq : step.kind = joining.kind
  tableAlias_eq : step.tableAlias = memberAlias (earlier.length + 1)
  aliases_eq : step.aliases = (joining.scope root earlier).aliases

/-- What joinings one after another leave behind. -/
structure Follows (root : Entity) (joinings : List Joining) (chain : JoinChain) : Prop where
  members_eq : chain.members = root :: joinings.map Joining.entity
  length_eq : chain.steps.length = joinings.length
  step : ∀ k joining, joinings[k]? = some joining →
    ∃ step, chain.steps[k]? = some step ∧ StepFollows root (joinings.take k) joining step ∧
      (chain.error? = none → joining.predicateText root (joinings.take k) = .ok step.on)
  failure : ∀ err, chain.error? = some err → ∃ k, FirstFault (fault? root) joinings k err

variable {root : Entity} {joinings : List Joining} {chain : JoinChain}

theorem Follows.faultless (h : Follows root joinings chain) (herror : chain.error? = none) :
    Faultless (fault? root) joinings := by
  intro k joining hk
  obtain ⟨step, -, -, hon⟩ := h.step k joining hk
  rw [fault?, hon herror, failure?_ok]

private theorem Follows.join (h : Follows root joinings chain) (joining : Joining) :
    Follows root (joinings ++ [joining]) (chain.join joining.kind joining.entity joining.on) := by
  obtain ⟨on, hroot, hsteps, hcases⟩ := chain.join_cases joining.kind joining.entity joining.on
  have hscope : JoinScope.mk (chain.members ++ [joining.entity]) = joining.scope root joinings := by
    rw [h.members_eq]
    rfl
  rw [hscope] at hsteps hcases
  -- from here on all that matters of the join is what it does
  generalize chain.join joining.kind joining.entity joining.on = after at *
  refine ⟨?_, by rw [hsteps]; simp [h.length_eq], fun k j hj => ?_, fun err herr => ?_⟩
  · have hmembers := h.members_eq
    rw [JoinChain.members] at hmembers
    rw [JoinChain.members, hroot, hsteps, List.map_append, ← List.cons_append, hmembers]
    simp
  · rcases getElem?_concat_cases hj with ⟨hj, htake⟩ | ⟨rfl, rfl, htake⟩
    · obtain ⟨step, hstep, hfollows, hon⟩ := h.step k j hj
      refine ⟨step, ?_, htake ▸ hfollows, fun herror => ?_⟩
      · rw [hsteps, List.getElem?_append_left (List.getElem?_eq_some_iff.mp hstep).1, hstep]
      · -- the chain had no failure before if it has none now
        rw [htake]
        rcases hcases with ⟨err, -, hsome⟩ | ⟨hnone, -, -⟩ | ⟨err, hnone, -, -⟩
        · simp [herror] at hsome
        · exact hon hnone
        · exact hon hnone
    · rw [htake]
      refine ⟨_, by rw [hsteps, ← h.length_eq, List.getElem?_concat_length],
        ⟨rfl, rfl, by rw [h.length_eq], rfl⟩, fun herror => ?_⟩
      rcases hcases with ⟨err, -, hsome⟩ | ⟨-, hon, -⟩ | ⟨err, -, -, hsome⟩
      · simp [herror] at hsome
      · exact hon
      · simp [herror] at hsome
  · rcases hcases with ⟨err', hsome, hafter⟩ | ⟨-, -, hnone⟩ | ⟨err', hnone, hfails, hafter⟩
    · rw [hafter, Option.some.injEq] at herr
      obtain ⟨k, hfirst⟩ := h.failure err' hsome
      exact ⟨k, herr ▸ hfirst.append [joining]⟩
    · simp [hnone] at herr
    · rw [hafter, Option.some.injEq] at herr
      exact ⟨_, (h.faultless hnone).firstFault (failure?_eq_some_iff.mpr (herr ▸ hfails))⟩

/-- Joinings one after another leave a step for each of them, and the failure of the first one that fails. -/
theorem follows_ofJoinings (root : Entity) (joinings : List Joining) :
    Follows root joinings (ofJoinings root joinings) := by
  induction joinings using List.reverseRecOn with
  | nil => exact ⟨rfl, rfl, by simp, fun err herr => by simp [ofJoinings] at herr⟩
  | append_singleton joinings joining ih =>
    have hjoin : ofJoinings root (joinings ++ [joining]) =
        (ofJoinings root joinings).join joining.kind joining.entity joining.on := by
      rw [ofJoinings, List.foldl_append]
      rfl
    rw [hjoin]
    exact ih.join joining

end JoinChain

/-! ### The statement of a chain -/

/-- The table of an entity under an alias. -/
def Entity.aliased (e : Entity) (tableAlias : Text) : AliasedTable :=
  ⟨if e.schema = [] then none else some e.schema, e.table, tableAlias⟩

/-- The joined table of a step, with its predicate as it is read. -/
def JoinStep.joined (step : JoinStep) : JoinedTable :=
  ⟨step.kind, step.entity.aliased step.tableAlias, (Formula.read? step.on).getD .never⟩

namespace JoinChain

/-- The selected columns of the member at a position. -/
def selectedOf (index : Nat) (e : Entity) : List SelectedColumn :=
  e.columns.map fun c => ⟨memberAlias index, c.name, label e c⟩

/-- The selected columns of members, the first of which stands at the given position. -/
def selectedFrom (index : Nat) : List Entity → List SelectedColumn
  | [] => []
  | e :: rest => selectedOf index e ++ selectedFrom (index + 1) rest

/-- The statement that a chain stands for. -/
def statement (chain : JoinChain) : JoinStatement :=
  ⟨selectedFrom 0 chain.members, chain.root.aliased (memberAlias 0), chain.steps.map JoinStep.joined⟩

private theorem isProper_aliased (e : Entity) (index : Nat) : (e.aliased (memberAlias index)).isProper = true := by
  have hmark {c d : Char} (hc : c ∈ memberAlias index) (hd : d.isDigit = false) (hfirst : d ≠ 'c') : c ≠ d := by
    rintro rfl
    rcases List.mem_cons.mp hc with rfl | hc
    · exact hfirst rfl
    · simp [Text.isDigit_of_mem_ofNat hc] at hd
  rw [AliasedTable.isProper, Bool.and_eq_true]
  refine ⟨List.all_eq_true.mpr fun c hc => ?_, List.all_eq_true.mpr fun c hc => ?_⟩
  · simp [Token.isInWord, hmark hc]
  · simp [Token.isPlain, hmark hc]

private theorem spell_aliased (e : Entity) (tableAlias : Text) :
    Token.spell (e.aliased tableAlias).tokens = e.tableText ++ ' ' :: tableAlias := by
  have htable : Text.bracketColumn (e.aliased tableAlias).schema? e.table = e.tableText := by
    rw [Entity.tableText, Entity.aliased]
    cases e.schema <;> rfl
  rw [AliasedTable.tokens, Token.spell_append, spell_columnTokens, Token.spell_cons, Token.spell_chars, ← htable]
  rfl

private theorem spell_listTokens (cs : List SelectedColumn) :
    Token.spell (SelectedColumn.listTokens cs) =
      Text.joinWith ", ".toList (cs.map fun c => Token.spell c.tokens) := by
  fun_induction SelectedColumn.listTokens cs with
  | case1 => rfl
  | case2 c => rfl
  | case3 c d rest ih =>
    rw [Token.spell_append, Token.spell_cons, Token.spell_cons, ih]
    simp [Text.joinWith, Token.text]

private theorem selectList_eq (index : Nat) (members : List Entity) :
    selectList index members = (selectedFrom index members).map fun c => Token.spell c.tokens := by
  induction members generalizing index with
  | nil => rfl
  | cons e members ih =>
    rw [selectList, selectedFrom, List.map_append, ih, selectedColumns, selectedOf, List.map_map]
    congr 1
    refine List.map_congr_left fun c _ => ?_
    simp [SelectedColumn.tokens, spell_betweenTokens, spell_columnTokens, Token.text]

private theorem stepText_eq {step : JoinStep} {f : Formula} (h : f.Writes step.on) :
    stepText step = ' ' :: Token.spell step.joined.tokens := by
  have hread : (Formula.read? step.on).getD .never = f := by
    rw [← h.text_eq, Formula.read?_text h.isProper, Option.getD_some]
  rw [JoinStep.joined, hread, JoinedTable.tokens, Token.spell_append, Token.spell_cons, Token.spell_chars,
    spell_betweenTokens, spell_aliased, stepText, ← h.text_eq]
  simp [Token.text, Formula.text]

private theorem sql_eq {chain : JoinChain} (herror : chain.error? = none)
    (hon : ∀ step ∈ chain.steps, ∃ f : Formula, f.Writes step.on) : chain.sql = .ok chain.statement.text := by
  have hsteps : chain.steps.flatMap stepText =
      Token.spell ((chain.steps.map JoinStep.joined).flatMap fun j => .char ' ' :: j.tokens) := by
    rw [List.flatMap_map, Token.spell, List.flatMap_assoc]
    refine List.flatMap_congr fun step hstep => ?_
    obtain ⟨f, hf⟩ := hon step hstep
    exact stepText_eq hf
  rw [sql, herror, JoinStatement.text, JoinStatement.tokens, Token.spell_append, Token.spell_cons, Token.spell_chars,
    spell_betweenTokens, JoinStatement.sourceTokens, Token.spell_append]
  dsimp only [statement]
  rw [spell_listTokens, spell_aliased, ← selectList_eq, ← hsteps]
  simp [Token.text]

variable {root : Entity} {joinings : List Joining} {chain : JoinChain}

theorem Follows.getElem?_joinings (h : Follows root joinings chain) {k : Nat} {step : JoinStep}
    (hstep : chain.steps[k]? = some step) :
    ∃ joining, joinings[k]? = some joining ∧ StepFollows root (joinings.take k) joining step ∧
      (chain.error? = none → joining.predicateText root (joinings.take k) = .ok step.on) := by
  have hk := (List.getElem?_eq_some_iff.mp hstep).1
  rw [h.length_eq] at hk
  obtain ⟨step', hstep', hfollows, hon⟩ := h.step k _ (List.getElem?_eq_getElem hk)
  rw [hstep, Option.some.injEq] at hstep'
  exact ⟨_, List.getElem?_eq_getElem hk, hstep' ▸ hfollows, hstep' ▸ hon⟩

/-- The predicate of a step is the written form of what it means over the members of its scope. -/
theorem Follows.exists_writes (h : Follows root joinings chain) (herror : chain.error? = none) {k : Nat}
    {step : JoinStep} (hstep : chain.steps[k]? = some step) :
    ∃ joining f, joinings[k]? = some joining ∧
      (joining.predicate root (joinings.take k)).formula? (joining.scope root (joinings.take k)).aliases .alone =
        some f ∧ f.Writes step.on := by
  obtain ⟨joining, hjoining, -, hon⟩ := h.getElem?_joinings hstep
  have htext := hon herror
  rw [Joining.predicateText, Expr.predicateText] at htext
  split at htext
  · obtain ⟨f, hf, hwrites⟩ := Expr.exists_writes_text htext
    exact ⟨joining, f, hjoining, hf, hwrites⟩
  · simp at htext

theorem error?_of_sql {t : Text} (h : chain.sql = .ok t) : chain.error? = none := by
  rw [sql] at h
  split at h
  · simp at h
  · assumption

/-- The text of a chain is read as the statement of the chain. -/
theorem Follows.read?_sql (h : Follows root joinings chain) {t : Text} (hsql : chain.sql = .ok t) :
    JoinStatement.read? t = some chain.statement := by
  have herror := error?_of_sql hsql
  have hwrites : ∀ step ∈ chain.steps, ∃ f : Formula, f.Writes step.on := by
    intro step hmem
    obtain ⟨k, hstep⟩ := List.mem_iff_getElem?.mp hmem
    obtain ⟨_, f, _, _, hf⟩ := h.exists_writes herror hstep
    exact ⟨f, hf⟩
  rw [sql_eq herror hwrites, Except.ok.injEq] at hsql
  rw [← hsql]
  refine JoinStatement.read?_text ⟨isProper_aliased _ 0, fun j hj => ?_⟩
  obtain ⟨step, hmem, rfl⟩ := List.mem_map.mp hj
  obtain ⟨k, hstep⟩ := List.mem_iff_getElem?.mp hmem
  obtain ⟨_, _, hfollows, _⟩ := h.getElem?_joinings hstep
  obtain ⟨f, hf⟩ := hwrites step hmem
  rw [JoinStep.joined, ← hf.text_eq, Formula.read?_text hf.isProper]
  exact ⟨hfollows.tableAlias_eq ▸ isProper_aliased _ _, hf.isProper⟩

end JoinChain

end EntityStore
