import EntityStore.Proofs.Access.Execution
import EntityStore.Proofs.Access.Failure
import EntityStore.Proofs.Access.WritePlan
import EntityStore.Proofs.Sql.Comment

/-!
# Rejections come before connections

An operation that ends with a failure found by validation has asked for no connection and told the sink nothing
(`Operation.rejected_before_connecting`).  Of the many statements of a bulk insertion the guard can only refuse the
first: as all records have a value for every column, their statements have one text.  No text with a comment mark
ever reaches a connection.
-/

namespace EntityStore

/-! ### The statements of one operation have one text -/

/-- The text of an insertion depends on the columns alone if every column has a value. -/
theorem Repository.sql_insertStatement {e : Entity} {r r' : Record} (h : r.length = e.columns.length)
    (h' : r'.length = e.columns.length) : (insertStatement e r).sql = (insertStatement e r').sql := by
  rw [insertStatement_eq, insertStatement_eq]
  exact Write.insertText_congr ((Entity.map_fst_inserted h).trans (Entity.map_fst_inserted h').symm) _ _ _

/-- The statements of an operation whose records have a value for every column differ in their bindings only. -/
theorem Operation.sql_eq_of_mem_statements {α : Type} {e : Entity} {op : Operation α} {statements : List Statement}
    (hrecords : ∀ r ∈ op.records, r.length = e.columns.length) (hstatements : op.statements e = .ok statements)
    {st st' : Statement} (h : st ∈ statements) (h' : st' ∈ statements) : st.sql = st'.sql := by
  have hsingle (hlimit : op.limit = 1) : st.sql = st'.sql := by
    have hlength := Operation.length_statements_le hstatements
    match statements with
    | [] => simp at h
    | [first] => rw [List.mem_singleton.mp h, List.mem_singleton.mp h']
    | first :: second :: rest => simp [hlimit] at hlength
  cases op with
  | createAll records =>
    obtain rfl := Except.ok.inj hstatements
    obtain ⟨r, hr, rfl⟩ := List.mem_map.mp h
    obtain ⟨r', hr', rfl⟩ := List.mem_map.mp h'
    exact Repository.sql_insertStatement (hrecords r hr) (hrecords r' hr')
  | _ => exact hsingle rfl

/-! ### Rejections -/

private theorem not_isDecode_of_isValidation {err : Error} (h : err.isValidation = true) : err.isDecode = false := by
  cases err <;> first | rfl | simp [Error.isValidation] at h

/-- If the guard refuses any statement of an operation, it refuses the first. -/
private theorem eq_nil_of_isSuspect {α : Type} {e : Entity} {op : Operation α} {statements : List Statement}
    {statement : Statement} {used : List Reply} (hrecords : ∀ r ∈ op.records, r.length = e.columns.length)
    (hstatements : op.statements e = .ok statements)
    (hpassed : ∀ st ∈ statements.take used.length, Guard.isSuspect st.sql = false)
    (hmem : statement ∈ statements) (hsuspect : Guard.isSuspect statement.sql = true) : used = [] := by
  cases used with
  | nil => rfl
  | cons reply rest =>
    cases statements with
    | nil => simp at hmem
    | cons first others =>
      have hfirst : first ∈ (first :: others).take (reply :: rest).length := by simp
      have hclean := hpassed first hfirst
      rw [Operation.sql_eq_of_mem_statements hrecords hstatements (List.mem_cons_self ..) hmem, hsuspect] at hclean
      exact absurd hclean (by decide)

/-- If the failures of a connection are not those of validation, an operation that ends with one has used no answer. -/
theorem Operation.Ended.eq_nil {α : Type} {e : Entity} {op : Operation α} {used : List Reply} {x : Except Error α}
    (hended : op.Ended e used x) (hrecords : ∀ r ∈ op.records, r.length = e.columns.length)
    (hused : ∀ reply ∈ used, ∀ err, reply.error? = some err → err.isValidation = false) {err : Error}
    (hx : x = .error err) (herr : err.isValidation = true) : used = [] := by
  cases hended with
  | invalid hr hnil => exact hnil
  | unwritable hvalid hstatements hnil => exact hnil
  | ran hvalid hstatements hlength hpassed hran =>
    cases hran with
    | complete hcomplete hreceived =>
      -- results only fail where rows cannot be decoded
      have hdecode := op.failsWith_result e _ err hx
      rw [not_isDecode_of_isValidation herr] at hdecode
      exact absurd hdecode (by decide)
    | @stopped earlier reply err' hlast hearlier hreply =>
      obtain rfl := Except.error.inj hx
      have hmem : reply ∈ used := by
        rw [hlast]
        exact List.mem_concat_self
      rw [hused reply hmem err' (Reply.error?_of_passedOn? hreply).1] at herr
      exact absurd herr (by decide)
    | refused hreceived hnext hsuspect =>
      exact eq_nil_of_isSuspect hrecords hstatements hpassed (List.mem_of_getElem? hnext) hsuspect

/-- A session of which nothing was asked. -/
structure Session.Untouched (s s' : Session) : Prop where
  connections : s'.connections = s.connections
  statements : s'.statements = s.statements
  reports : s'.reports = s.reports

theorem Session.Asked.untouched {s s' : Session} {sent : List Statement} (h : s.Asked s' 0 sent) :
    s.Untouched s' := by
  have hsent : sent = [] := List.length_eq_zero_iff.mp (Nat.le_zero.mp h.length_le)
  refine ⟨h.connections, ?_, ?_⟩
  · rw [h.statements, hsent, List.append_nil]
  · simpa [Session.answers] using h.reports

/-- A bulk insertion with a record that breaks a rule, or whose statement the guard refuses, inserts nothing. -/
private theorem createAll_rejected {e : Entity} {records : List Record} {used : List Reply} {x : Except Error Nat}
    (hended : (Operation.createAll records).Ended e used x)
    (hrecords : ∀ r ∈ records, r.length = e.columns.length)
    (h : ∃ r ∈ records, (e.validate r).isEmpty = false ∨
      Guard.isSuspect (Repository.insertStatement e r).sql = true) :
    used = [] ∧ ∃ err, x = .error err ∧ err.isValidation = true := by
  obtain ⟨r, hr, hrefused⟩ := h
  cases hended with
  | invalid hr hnil => exact ⟨hnil, _, rfl, rfl⟩
  | unwritable hvalid hstatements hnil => simp [Operation.statements] at hstatements
  | @ran statements x hvalid hstatements hlength hpassed hran =>
    have hsuspect : Guard.isSuspect (Repository.insertStatement e r).sql = true := by
      rcases hrefused with hinvalid | hsuspect
      · rw [hvalid r hr] at hinvalid
        exact absurd hinvalid (by decide)
      · exact hsuspect
    -- the guard refuses a statement of the list, hence the first
    have hmem : Repository.insertStatement e r ∈ statements := by
      rw [← Except.ok.inj hstatements]
      exact List.mem_map_of_mem hr
    have hlengths : ∀ r ∈ (Operation.createAll records).records, r.length = e.columns.length := hrecords
    have hnil : used = [] := eq_nil_of_isSuspect hlengths hstatements hpassed hmem hsuspect
    refine ⟨hnil, ?_⟩
    cases hran with
    | complete hcomplete hreceived =>
      rw [hnil] at hcomplete
      exact absurd (List.length_eq_zero_iff.mp hcomplete.symm) (List.ne_nil_of_mem hmem)
    | stopped hlast hearlier hreply => simp [hnil] at hlast
    | refused hreceived hnext hsuspect => exact ⟨_, rfl, rfl⟩

/-- An operation that is rejected by validation has asked for no connection and told the sink nothing; no text with a
comment mark reaches a connection in any run; and a bulk insertion is rejected as a whole. -/
theorem Operation.rejected_before_connecting {α : Type} (e : Entity) (op : Operation α) (s : Session) :
    ((∀ r ∈ op.records, r.length = e.columns.length) →
      (∀ reply ∈ s.replies, ∀ err, reply.error? = some err → err.isValidation = false) →
        ∀ err s', (op.run e).on s = (.error err, s') → err.isValidation = true → s.Untouched s') ∧
    (∃ sent, ((op.run e).on s).2.statements = s.statements ++ sent ∧ ∀ st ∈ sent, IsUncommented st.sql) ∧
    ∀ records : List Record, (∀ r ∈ records, r.length = e.columns.length) →
      (∃ r ∈ records, (e.validate r).isEmpty = false ∨
        Guard.isSuspect (Repository.insertStatement e r).sql = true) →
        ∃ err s', ((createAll records).run e).on s = (.error err, s') ∧ err.isValidation = true ∧ s.Untouched s' := by
  obtain ⟨n, s', x, hrun, hasked, hended⟩ := op.run_ended e s
  refine ⟨fun hrecords hreplies err s'' h herr => ?_,
    ⟨op.reached e (Session.answers n s.replies), ?_, fun st hst => ?_⟩, fun records hrecords h => ?_⟩
  · rw [hrun] at h
    obtain ⟨hx, rfl⟩ := Prod.mk.inj h
    have hused : ∀ reply ∈ Session.answers n s.replies, ∀ err, reply.error? = some err → err.isValidation = false := by
      intro reply hreply err herror
      rcases Session.mem_or_eq_of_mem_answers hreply with hreply | rfl
      · exact hreplies reply hreply err herror
      · simp [Reply.error?] at herror
    have hnil := hended.eq_nil hrecords hused hx herr
    have hn : n = 0 := by rw [← Session.length_answers n s.replies, hnil, List.length_nil]
    exact (hn ▸ hasked).untouched
  · rw [hrun]
    exact hasked.statements
  · exact isUncommented_of_not_isSuspect (hended.of_mem_reached hst).1
  · obtain ⟨n, s', x, hrun, hasked, hended⟩ := (createAll records).run_ended e s
    obtain ⟨hnil, err, rfl, herr⟩ := createAll_rejected hended hrecords h
    have hn : n = 0 := by rw [← Session.length_answers n s.replies, hnil, List.length_nil]
    exact ⟨err, s', hrun, herr, (hn ▸ hasked).untouched⟩

/-- Two records for a table whose name has a comment mark, with a connection that would fail. -/
theorem Operation.rejected_before_connecting_createAll :
    let e : Entity := ⟨['E'], [], "t--".toList, [{ name := ['a'], type := ⟨.string, false⟩ }]⟩
    let s : Session := { replies := [.failure (.other [])] }
    ∃ err s', ((createAll [[.string ['x']], [.string ['y']]]).run e).on s = (.error err, s') ∧
      err.isValidation = true ∧ s.Untouched s' := by
  intro e s
  have h := rejected_before_connecting e (createAll [[.string ['x']], [.string ['y']]]) s
  obtain ⟨err, s', hrun, herr, -⟩ := h.2.2 [[.string ['x']], [.string ['y']]] (by simp [e])
    ⟨[.string ['x']], by simp, .inr (by decide)⟩
  refine ⟨err, s', hrun, herr, h.1 ?_ ?_ err s' hrun herr⟩
  · simp [records, e]
  · simp [s, Reply.error?, Error.isValidation]

end EntityStore
