import EntityStore.Proofs.Access.Rejection

/-!
# Operations of one statement

Most operations run one statement.  If the guard refuses it, nothing is asked of the session; otherwise one connection
is asked for and the statement is handed to it, if there is one (`Operation.runs_of_statements`).  An operation whose
statement cannot be written is refused before it asks for anything (`Operation.refused_of_statements`).  Whatever an
operation that writes records hands to a connection is the statement of a write (`Operation.Hands.exists_write`).
-/

namespace EntityStore

variable {α : Type}

namespace Operation

/-- An operation runs one statement: the guard refuses it and nothing is asked of the session, or one connection is
asked for and the statement is handed to it, if there is one. -/
structure Runs (e : Entity) (op : Operation α) (s : Session) (st : Statement) : Prop where
  suspect : Guard.isSuspect st.sql = true →
    ∃ s', (op.run e).on s = (.error (.injectionSuspected st.sql), s') ∧ s.Untouched s'
  passed : Guard.isSuspect st.sql = false → s.Asked ((op.run e).on s).2 1 (st.reached s.next)

/-- An operation is refused by validation before anything is asked of the session. -/
def Refused (e : Entity) (op : Operation α) (s : Session) : Prop :=
  ∃ fault s', (op.run e).on s = (.error (.validation fault), s') ∧ s.Untouched s'

/-- An operation hands a statement to a connection. -/
def Hands (e : Entity) (op : Operation α) (s : Session) (st : Statement) : Prop :=
  ∃ sent, ((op.run e).on s).2.statements = s.statements ++ sent ∧ st ∈ sent

/-- Whether an operation writes records, each with a statement of its own. -/
def writesRecords : Operation α → Bool
  | create _ | createAll _ | updateOnly _ _ | update _ | delete _ => true
  | _ => false

variable {e : Entity} {op : Operation α} {s : Session} {st : Statement}

theorem runs_of_statements (hvalid : ∀ r ∈ op.records, (e.validate r).isEmpty = true)
    (hstatements : op.statements e = .ok [st]) (s : Session) : op.Runs e s st := by
  have hrun := on_run_of_valid hvalid s
  rw [hstatements] at hrun
  dsimp only at hrun
  rw [List.mapM_cons, List.mapM_nil, Action.on_bind] at hrun
  refine ⟨fun hsuspect => ?_, fun hclean => ?_⟩
  · obtain ⟨s', hasked, hperform⟩ := perform_of_isSuspect hsuspect s
    rw [hperform] at hrun
    exact ⟨s', hrun, hasked.untouched⟩
  · obtain ⟨s', hasked, hperform⟩ := perform_reached hclean s
    rw [hperform] at hrun
    have hlast : ((op.run e).on s).2 = s' := by
      rw [hrun]
      cases s.next.outcome <;> rfl
    rw [hlast]
    exact hasked

theorem refused_of_statements (hvalid : ∀ r ∈ op.records, (e.validate r).isEmpty = true) {err : Error}
    (hstatements : op.statements e = .error err) (herr : err.isUnwritable = true) (s : Session) : op.Refused e s := by
  obtain ⟨fault, rfl⟩ := Error.isUnwritable_iff.mp herr
  have hrun := on_run_of_valid hvalid s
  rw [hstatements] at hrun
  exact ⟨fault, s, hrun, (Session.Asked.refl s).untouched⟩

/-- What is refused runs no statement. -/
theorem Runs.not_refused (h : op.Runs e s st) : ¬op.Refused e s := by
  rintro ⟨fault, s', hrun, huntouched⟩
  cases hguard : Guard.isSuspect st.sql with
  | true =>
    obtain ⟨s'', hrun', -⟩ := h.suspect hguard
    rw [hrun'] at hrun
    simp at hrun
  | false =>
    have hconnections := (h.passed hguard).connections
    rw [hrun] at hconnections
    have hsame := huntouched.connections
    dsimp only at hconnections
    omega

/-- A statement that the guard lets pass is handed over if there is a connection. -/
theorem hands_of_statements (hvalid : ∀ r ∈ op.records, (e.validate r).isEmpty = true)
    (hstatements : op.statements e = .ok [st]) (hguard : Guard.isSuspect st.sql = false)
    (hreached : st ∈ st.reached s.next) : op.Hands e s st :=
  ⟨_, ((runs_of_statements hvalid hstatements s).passed hguard).statements, hreached⟩

/-! ### Statements that were handed over -/

theorem Hands.exists_statements (h : op.Hands e s st) :
    ∃ statements, op.statements e = .ok statements ∧ st ∈ statements := by
  obtain ⟨sent, hsent, hmem⟩ := h
  obtain ⟨sent', hsent', hwritten⟩ := op.exists_sent e s
  rw [hsent'] at hsent
  rw [← List.append_cancel_left hsent] at hmem
  exact hwritten st hmem

private theorem exists_write_of_updatePlan {r : Record} {columns : List Text} {statements : List Statement}
    (h : ((Repository.updatePlan e r columns).map fun st => [st]) = .ok statements) (hmem : st ∈ statements) :
    ∃ w : Write, st = w.statement := by
  obtain ⟨planned, hplan, rfl⟩ := map_eq_ok_iff.mp h
  obtain rfl := List.mem_singleton.mp hmem
  obtain ⟨key, assigned, -, -, -, rfl⟩ := Repository.updatePlan_eq_ok_iff.mp hplan
  exact ⟨_, Repository.updateStatement_eq e assigned key⟩

/-- What is handed over when records are written is the statement of a write. -/
theorem Hands.exists_write (h : op.Hands e s st) (hop : op.writesRecords = true) : ∃ w : Write, st = w.statement := by
  obtain ⟨statements, hstatements, hmem⟩ := h.exists_statements
  cases op with
  | create r =>
    obtain rfl := Except.ok.inj hstatements
    exact ⟨_, (List.mem_singleton.mp hmem).trans (Repository.insertStatement_eq e r)⟩
  | createAll records =>
    obtain rfl := Except.ok.inj hstatements
    obtain ⟨r, -, rfl⟩ := List.mem_map.mp hmem
    exact ⟨_, Repository.insertStatement_eq e r⟩
  | updateOnly r columns => exact exists_write_of_updatePlan hstatements hmem
  | update r => exact exists_write_of_updatePlan hstatements hmem
  | delete r =>
    obtain ⟨key, -, rfl⟩ := map_eq_ok_iff.mp hstatements
    exact ⟨_, (List.mem_singleton.mp hmem).trans (Repository.deleteStatement_eq e key)⟩
  | _ => simp [writesRecords] at hop

end Operation

end EntityStore
