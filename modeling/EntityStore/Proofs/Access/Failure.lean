import EntityStore.Proofs.Access.Operation
import EntityStore.Proofs.Query.Fragment

/-!
# Where failures come from

What keeps a statement from being written is always found by validation (`Operation.failsWith_statements`), and what
keeps a result from being read is always a cell that cannot be decoded (`Operation.failsWith_result`).  Neither is
ever a failure of the connection.
-/

namespace EntityStore

/-! ### Conditions and clauses -/

private theorem failsWith_conditionText (column : Text) (comparison : Comparison) (value? : Option Value)
    (textCast : Bool) : FailsWith Error.isValidation (conditionText column comparison value? textCast) := by
  cases value? with
  | none => exact failsWith_ok _
  | some v =>
    cases comparison with
    | isIn => exact (v.failsWith_literalBatches.map _).mono fun _ => Error.isValidation_of_isUnsupported
    | isNotIn => exact (v.failsWith_literalBatches.map _).mono fun _ => Error.isValidation_of_isUnsupported
    | _ => exact (v.failsWith_literal.map _).mono fun _ => Error.isValidation_of_isUnsupported

private theorem failsWith_operand (column : Text) (comparison : Comparison) (value? : Option Value) :
    FailsWith Error.isValidation (operand column comparison value?) := by
  unfold operand
  split
  · exact failsWith_ok _
  · split
    · exact failsWith_error rfl
    · split
      · exact failsWith_error rfl
      · exact failsWith_ok _

theorem Condition.failsWith_make (column : Text) (comparison : Comparison) (value? : Option Value)
    (textCast : Bool) : FailsWith Error.isValidation (make column comparison value? textCast) := by
  intro err h
  unfold make at h
  split at h
  · next err' herr => exact Except.error.inj h ▸ failsWith_operand column comparison value? err' herr
  · next used hused =>
    split at h
    · next err' herr => exact Except.error.inj h ▸ failsWith_conditionText column comparison used textCast err' herr
    · simp at h

namespace Clause

/-- A clause has failed, if at all, in validation. -/
def FailsInValidation (w : Clause) : Prop :=
  ∀ err, w.error? = some err → err.isValidation = true

private theorem FailsInValidation.push {w : Clause} (hw : w.FailsInValidation) (link : Link) :
    (w.push link).FailsInValidation := by
  unfold Clause.push
  split <;> exact hw

private theorem failsInValidation_of_error {w : Clause} {err : Error} (h : err.isValidation = true) :
    ({ w with error? := some err } : Clause).FailsInValidation := by
  intro err' heq
  rw [← Option.some.inj heq]
  exact h

theorem FailsInValidation.step {w : Clause} (hw : w.FailsInValidation) (s : Step) :
    (w.step s).FailsInValidation := by
  unfold Clause.step
  split
  · exact hw
  · cases s with
    | condition joint column comparison value? =>
      dsimp only
      split
      · exact hw.push _
      · next err herr => exact failsInValidation_of_error (Condition.failsWith_make _ _ _ _ err herr)
    | beginGroup joint column comparison value? =>
      dsimp only
      split
      · exact hw
      · next err herr => exact failsInValidation_of_error (Condition.failsWith_make _ _ _ _ err herr)
    | endGroup =>
      dsimp only
      split
      · next g outer hgroups =>
        have houter : ({ w with groups := outer } : Clause).FailsInValidation := hw
        exact houter.push _
      · exact failsInValidation_of_error rfl

theorem FailsInValidation.run {w : Clause} (hw : w.FailsInValidation) (steps : List Step) :
    (w.run steps).FailsInValidation := by
  induction steps generalizing w with
  | nil => exact hw
  | cons s steps ih => exact ih (hw.step s)

theorem FailsInValidation.toText {w : Clause} (hw : w.FailsInValidation) :
    FailsWith Error.isValidation w.toText := by
  unfold Clause.toText
  split
  · next err herr => exact failsWith_error (hw err herr)
  · split
    · exact failsWith_ok _
    · exact failsWith_error rfl

end Clause

private theorem failsWith_clause (e : Entity) (steps : List Step) :
    FailsWith Error.isValidation (Repository.clause e steps).toText := by
  have hempty : ({ columns := e.columns } : Clause).FailsInValidation := by
    intro err h
    simp at h
  exact (hempty.run steps).toText

/-! ### Predicates and joins -/

theorem Expr.failsWith_predicateText (aliases : Aliases) (e : Expr) :
    FailsWith Error.isValidation (e.predicateText aliases) := by
  unfold Expr.predicateText
  split
  · exact (e.failsWith_textAt aliases {}).mono fun _ => Error.isValidation_of_isUnsupported
  · exact failsWith_error rfl

/-- A chain has failed, if at all, in validation. -/
def JoinChain.FailsInValidation (chain : JoinChain) : Prop :=
  ∀ err, chain.error? = some err → err.isValidation = true

private theorem JoinChain.FailsInValidation.join {chain : JoinChain} (h : chain.FailsInValidation)
    (joining : Joining) : (chain.join joining.kind joining.entity joining.on).FailsInValidation := by
  unfold JoinChain.join
  dsimp only
  split
  · exact h
  · next hnone =>
    split
    · exact h
    · next err herr =>
      intro err' heq
      rw [← Option.some.inj heq]
      exact Expr.failsWith_predicateText _ _ err herr

theorem JoinChain.failsInValidation_ofJoinings (root : Entity) (joinings : List Joining) :
    (ofJoinings root joinings).FailsInValidation := by
  have hfold (chain : JoinChain) (h : chain.FailsInValidation) :
      (joinings.foldl (fun chain joining => chain.join joining.kind joining.entity joining.on)
        chain).FailsInValidation := by
    induction joinings generalizing chain with
    | nil => exact h
    | cons joining rest ih => exact ih _ (h.join joining)
  refine hfold _ fun err h => ?_
  simp at h

theorem JoinChain.FailsInValidation.sql {chain : JoinChain} (h : chain.FailsInValidation) :
    FailsWith Error.isValidation chain.sql := by
  unfold JoinChain.sql
  split
  · next err herr => exact failsWith_error (h err herr)
  · exact failsWith_ok _

/-! ### Writing -/

/-- Whether a failure says that a record cannot be written as asked. -/
def Error.isUnwritable : Error → Bool
  | .validation _ => true
  | _ => false

theorem Error.isUnwritable_iff {err : Error} : err.isUnwritable = true ↔ ∃ fault, err = .validation fault := by
  cases err <;> simp [isUnwritable]

private theorem Error.isValidation_of_isUnwritable {err : Error} (h : err.isUnwritable = true) :
    err.isValidation = true := by
  obtain ⟨fault, rfl⟩ := isUnwritable_iff.mp h
  rfl

theorem failsWith_keyField (e : Entity) (r : Record) : FailsWith Error.isUnwritable (Repository.keyField e r) := by
  unfold Repository.keyField
  split
  · exact failsWith_error rfl
  · split
    · exact failsWith_error rfl
    · exact failsWith_ok _

private theorem failsWith_updatedFields (e : Entity) (r : Record) (used columns : List Text) :
    FailsWith Error.isUnwritable (Repository.updatedFields e r used columns) := by
  induction columns generalizing used with
  | nil => exact failsWith_ok []
  | cons name rest ih =>
    rw [Repository.updatedFields_cons]
    split
    · exact failsWith_error rfl
    · split
      · exact failsWith_error rfl
      · split
        · exact failsWith_error rfl
        · exact (ih _).map _

theorem failsWith_updatePlan (e : Entity) (r : Record) (columns : List Text) :
    FailsWith Error.isUnwritable (Repository.updatePlan e r columns) := by
  refine (failsWith_keyField e r).bind fun key => ?_
  split
  · exact failsWith_error rfl
  · exact (failsWith_updatedFields e r [] columns).bind fun fields => failsWith_ok _

/-! ### Operations -/

/-- A statement that cannot be written fails in validation. -/
theorem Operation.failsWith_statements {α : Type} (e : Entity) (op : Operation α) :
    FailsWith Error.isValidation (op.statements e) := by
  cases op with
  | count => exact failsWith_ok _
  | all => exact failsWith_ok _
  | whereText clause => exact failsWith_ok _
  | create r => exact failsWith_ok _
  | createAll records => exact failsWith_ok _
  | whereSteps steps => exact ((failsWith_clause e steps).map _).map _
  | whereColumn column comparison v => exact ((failsWith_clause e _).map _).map _
  | whereEqual criteria =>
    rw [Operation.statements]
    split
    · exact failsWith_ok _
    · exact ((failsWith_clause e _).map _).map _
  | filter predicate => exact (Expr.failsWith_predicateText _ _).map _
  | updateOnly r columns =>
    exact ((failsWith_updatePlan e r columns).mono fun _ => Error.isValidation_of_isUnwritable).map _
  | update r => exact ((failsWith_updatePlan e r _).mono fun _ => Error.isValidation_of_isUnwritable).map _
  | delete r => exact ((failsWith_keyField e r).mono fun _ => Error.isValidation_of_isUnwritable).map _
  | deleteIn column values => exact (failsWith_clause e _).map _
  | join joinings => exact (JoinChain.failsInValidation_ofJoinings e joinings).sql.map _

/-- Whether a failure is that of a cell that cannot be decoded. -/
def Error.isDecode : Error → Bool
  | .decode _ _ => true
  | _ => false

theorem failsWith_readRecord (e : Entity) (row : Row) (mark : Text) :
    FailsWith Error.isDecode (e.readRecord row mark) := by
  refine failsWith_mapM (fun c err h => ?_) e.columns
  unfold Row.decodeOrDefault at h
  split at h
  · simp at h
  · simp at h
  · next v _ _ =>
    cases hdecode : c.type.decode v with
    | ok v =>
      rw [hdecode] at h
      exact nomatch h
    | error fault =>
      rw [hdecode] at h
      rw [← Except.error.inj h]
      rfl

private theorem failsWith_numberOf (reply? : Option Reply) : FailsWith Error.isDecode (Operation.numberOf reply?) := by
  unfold Operation.numberOf
  split
  · exact failsWith_ok _
  · split
    · exact failsWith_ok _
    · exact failsWith_error rfl

/-- A result that cannot be read fails in decoding. -/
theorem Operation.failsWith_result {α : Type} (e : Entity) (op : Operation α) (replies : List (Option Reply)) :
    FailsWith Error.isDecode (op.result e replies) := by
  cases op with
  | count => exact failsWith_numberOf _
  | create r => exact failsWith_ok _
  | createAll records => exact failsWith_ok _
  | updateOnly r columns => exact failsWith_ok _
  | update r => exact failsWith_ok _
  | delete r => exact failsWith_ok _
  | deleteIn column values => exact failsWith_ok _
  | join joinings =>
    exact failsWith_mapM (fun row => (failsWith_mapM (fun e => (failsWith_readRecord e row _).map _) _).map _) _
  | _ => exact failsWith_mapM (fun row => failsWith_readRecord e row []) _

end EntityStore
