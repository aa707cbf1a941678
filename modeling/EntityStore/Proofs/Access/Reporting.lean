import EntityStore.Proofs.Access.Execution
import EntityStore.Proofs.Access.Failure

/-!
# Failed connections are reported and nothing else is

The sink is told of every failure of the backend once, in the order in which they happened, and of nothing else; the
caller never gets one of them, but an empty result in its place.  An operation fails exactly if it is rejected, if a
failure of a connection is passed on, or if a row cannot be read, and with this failure as it is
(`Operation.Ended.eq_error_iff`).  A failure of the backend is none of these, so that it ends nothing: the next
statement has its turn.

How an operation ends, and after how many connections, is decided by its records, its statements and the answers
(`Operation.Ended.unique`).  What it did with its connections is told from this end (`Operation.accounted`).
-/

namespace EntityStore

variable {α β : Type}

namespace Operation

/-- The result of an operation whose connection failed. -/
def empty : Operation α → α
  | count => 0
  | all | whereSteps _ | whereText _ | filter _ | whereColumn _ _ _ | whereEqual _ => []
  | create _ => none
  | createAll _ => 0
  | updateOnly _ _ | update _ | delete _ => false
  | deleteIn _ _ => 0
  | join _ => []

/-- What an operation is rejected for, given the answers that were used before. -/
inductive Rejected (e : Entity) (op : Operation α) (used : List Reply) : Error → Prop where
  /-- A record breaks a rule of its entity, and none before it does.  Nothing was asked for. -/
  | invalid {r : Record} (hr : e.firstInvalid? op.records = some r) (hused : used = []) :
    Rejected e op used (.invalidEntity e.name (e.validate r))
  /-- A statement cannot be written.  Nothing was asked for. -/
  | unwritable {err : Error} (hvalid : ∀ r ∈ op.records, (e.validate r).isEmpty = true)
    (hstatements : op.statements e = .error err) (hused : used = []) : Rejected e op used err
  /-- The guard refuses the next statement. -/
  | refused {statements : List Statement} {statement : Statement}
    (hvalid : ∀ r ∈ op.records, (e.validate r).isEmpty = true) (hstatements : op.statements e = .ok statements)
    (hpassed : ∀ st ∈ statements.take used.length, Guard.isSuspect st.sql = false)
    (hused : ∀ reply ∈ used, reply.passedOn? = none) (hnext : statements[used.length]? = some statement)
    (hsuspect : Guard.isSuspect statement.sql = true) : Rejected e op used (.injectionSuspected statement.sql)

/-- A row cannot be read, and all before it can. -/
def FirstUnread (read : Row → Except Error β) (rows : List Row) (err : Error) : Prop :=
  ∃ before row after, rows = before ++ row :: after ∧ read row = .error err ∧ ∀ r ∈ before, ∃ b, read r = .ok b

/-- Rows from which the result of an operation cannot be read, and why.  Where records are written nothing is read. -/
def Unreadable (e : Entity) (rows : List Row) (err : Error) : Operation α → Prop
  | count => ∃ columns cell cells others fault, rows = ⟨columns, cell :: cells⟩ :: others ∧
      ScalarType.int64.decode cell = .error fault ∧ err = .decode "COUNT(*)".toList fault
  | all | whereSteps _ | whereText _ | filter _ | whereColumn _ _ _ | whereEqual _ =>
    FirstUnread (fun row => e.readRecord row []) rows err
  | join joinings => FirstUnread (JoinChain.ofJoinings e joinings).readRow rows err
  | create _ | createAll _ | updateOnly _ _ | update _ | delete _ | deleteIn _ _ => False

/-- An answer with rows from which the result of an operation cannot be read. -/
def ReadFault (e : Entity) (op : Operation α) (err : Error) : Reply → Prop
  | .rows columns cells => op.Unreadable e (cells.map (Row.mk columns)) err
  | .noConnection _ | .failure _ | .affected _ | .nothing => False

/-- What an operation did with its connections: it asked for `n` of them and ended with `x`. -/
structure Accounted (e : Entity) (op : Operation α) (s s' : Session) (n : Nat) (x : Except Error α) : Prop where
  /-- There is at most one connection to a statement. -/
  le_limit : n ≤ op.limit
  connections : s'.connections = s.connections + n
  replies : s'.replies = s.replies.drop n
  /-- The connections were handed the statements in order. -/
  statements : s'.statements = s.statements ++ op.reached e (Session.answers n s.replies)
  /-- The sink was told of the failures of the backend, in order, and of nothing else. -/
  reports : s'.reports = s.reports ++ (Session.answers n s.replies).filterMap Reply.reported?
  /-- The end is one of those that the answers allow. -/
  ended : op.Ended e (Session.answers n s.replies) x
  /-- They allow no other, neither sooner nor later. -/
  decided : ∀ n' x', op.Ended e (Session.answers n' s.replies) x' → n' = n ∧ x' = x
  not_isBackend : ∀ err, x = .error err → err.isBackend = false
  /-- Rejections, failures that are passed on and faults of rows are the result as they are, and nothing else is a
  failure. -/
  eq_error_iff : ∀ err, x = .error err ↔ op.Rejected e (Session.answers n s.replies) err ∨
    (∃ reply ∈ Session.answers n s.replies, reply.passedOn? = some err) ∨
      ∃ reply ∈ Session.answers n s.replies, op.ReadFault e err reply
  /-- Unless it fails, all statements of an operation were answered, those after a failure of the backend too, and the
  result is read from what was received. -/
  answered : ∀ a, x = .ok a → ∃ statements, op.statements e = .ok statements ∧ n = statements.length ∧
    op.result e ((Session.answers n s.replies).map Reply.received?) = .ok a
  /-- If every statement met a failure of the backend, the result is empty. -/
  empty : 0 < n → n = op.limit → (∀ reply ∈ Session.answers n s.replies, reply.reported?.isSome = true) →
    x = .ok op.empty

/-! ### Results -/

private theorem result_of_none (e : Entity) (op : Operation α) {replies : List (Option Reply)}
    (h : ∀ reply? ∈ replies, reply? = none) : op.result e replies = .ok op.empty := by
  have hhead : replies.head?.join = none := by
    cases replies with
    | nil => rfl
    | cons first rest => rw [h first (List.mem_cons_self ..)]; rfl
  have hkey : insertedKey? e none = none := by
    unfold insertedKey?
    split <;> rfl
  cases op with
  | createAll records =>
    have hcount : replies.countP (fun reply? => (insertedKey? e reply?).isSome) = 0 := by
      refine List.countP_eq_zero.mpr fun reply? hreply => ?_
      rw [h reply? hreply, hkey]
      decide
    rw [result, hcount]
    rfl
  | create r => rw [result, hhead, hkey]; rfl
  | _ => rw [result, hhead]; rfl

private theorem numberOf_eq_error_iff (e : Entity) {columns : List Text} {cells : List (List Value)} {err : Error} :
    numberOf (some (.rows columns cells)) = .error err ↔ count.Unreadable e (cells.map (Row.mk columns)) err := by
  cases cells with
  | nil => simp [numberOf, rowsOf, Reply.toRows, Unreadable]
  | cons first rest =>
    cases first with
    | nil => simp [numberOf, rowsOf, Reply.toRows, Unreadable]
    | cons cell others =>
      cases hdecode : ScalarType.int64.decode cell <;>
        simp [numberOf, rowsOf, Reply.toRows, Unreadable, hdecode, eq_comm]

/-- Without rows there is nothing that could not be read. -/
private theorem result_ne_error {e : Entity} {op : Operation α} {reply? : Option Reply} (h : rowsOf reply? = [])
    (err : Error) : op.result e [reply?] ≠ .error err := by
  cases op with
  | count => simp [result, numberOf, h]
  | _ => simp [result, h, pure, Except.pure]

/-- Where there is not just one statement, no rows are read. -/
private theorem limit_eq_one_of_result {e : Entity} {op : Operation α} {replies : List (Option Reply)} {err : Error}
    (h : op.result e replies = .error err) : op.limit = 1 := by
  cases op with
  | createAll records => exact nomatch h
  | _ => rfl

/-- The result cannot be read from the answer to a single statement exactly if its rows cannot be read. -/
private theorem result_eq_error_iff {e : Entity} {op : Operation α} {reply : Reply} {err : Error} :
    op.result e [reply.received?] = .error err ↔ op.ReadFault e err reply := by
  cases reply with
  | rows columns cells =>
    cases op with
    | count => exact numberOf_eq_error_iff e
    | all | whereSteps _ | whereText _ | filter _ | whereColumn _ _ _ | whereEqual _ | join _ => exact mapM_eq_error_iff
    | _ => exact iff_of_false nofun id
  | _ => exact iff_of_false (result_ne_error rfl err) id

/-! ### How operations end -/

private theorem not_isBackend_of_isValidation {err : Error} (h : err.isValidation = true) : err.isBackend = false := by
  cases err <;> first | rfl | simp [Error.isValidation] at h

private theorem not_isBackend_of_isDecode {err : Error} (h : err.isDecode = true) : err.isBackend = false := by
  cases err <;> first | rfl | simp [Error.isDecode] at h

private theorem passedOn?_of_reported? {reply : Reply} (h : reply.reported?.isSome = true) :
    reply.passedOn? = none ∧ reply.received? = none := by
  obtain ⟨err, herr⟩ := Option.isSome_iff_exists.mp h
  obtain ⟨herror, hbackend⟩ : reply.error? = some err ∧ err.isBackend = true := by
    simpa [Reply.reported?, Option.filter_eq_some_iff] using herr
  simp [Reply.passedOn?, Reply.received?, herror, hbackend]

end Operation

/-! ### One end only -/

theorem Session.getElem?_answers {n n' i : Nat} (hi : i < n) (hn : n ≤ n') (replies : List Reply) :
    (answers n' replies)[i]? = (answers n replies)[i]? := by
  obtain ⟨k, rfl⟩ := Nat.exists_eq_add_of_le hn
  rw [answers_add, List.getElem?_append_left (by rw [length_answers]; exact hi)]

section

variable {statements : List Statement} {used replies : List Reply} {n n' : Nat}
  {x x' : Except Error (List (Option Reply))}

/-- Only the last failure is passed on. -/
private theorem Ran.passedOn?_eq_none (h : Ran statements used x) {i : Nat} (hi : i + 1 < used.length) {reply : Reply}
    (hreply : used[i]? = some reply) : reply.passedOn? = none := by
  cases h with
  | complete hlength hused => exact hused reply (List.mem_of_getElem? hreply)
  | refused hused hnext hsuspect => exact hused reply (List.mem_of_getElem? hreply)
  | @stopped earlier last err hlast hearlier hpassed =>
    rw [hlast, List.length_append, List.length_singleton] at hi
    rw [hlast, List.getElem?_append_left (by omega)] at hreply
    exact hearlier reply (List.mem_of_getElem? hreply)

/-- Statements that ended after some answers do not also end after more of them. -/
private theorem Ran.not_lt (h : Ran statements (Session.answers n replies) x)
    (h' : Ran statements (Session.answers n' replies) x') (hle : n' ≤ statements.length)
    (hpassed : ∀ st ∈ statements.take n', Guard.isSuspect st.sql = false) : ¬n < n' := by
  intro hlt
  have hlength := Session.length_answers n replies
  cases h with
  | complete hcomplete hused => omega
  | @stopped earlier reply err hlast hearlier hreply =>
    -- the failure that was passed on would be followed by another answer
    have hn : n = earlier.length + 1 := by
      rw [← hlength, hlast, List.length_append, List.length_singleton]
    have hget : (Session.answers n' replies)[earlier.length]? = some reply := by
      rw [Session.getElem?_answers (by omega) (Nat.le_of_lt hlt), hlast, List.getElem?_concat_length]
    have hnone := h'.passedOn?_eq_none (by rw [Session.length_answers]; omega) hget
    rw [hnone] at hreply
    exact nomatch hreply
  | @refused statement hused hnext hsuspect =>
    rw [hlength] at hnext
    have hmem : statement ∈ statements.take n' := by
      refine List.mem_of_getElem? (i := n) ?_
      rw [List.getElem?_take, if_pos hlt, hnext]
    rw [hpassed statement hmem] at hsuspect
    exact nomatch hsuspect

/-- After the same answers statements end in the same way. -/
private theorem Ran.eq_of_same (h : Ran statements used x) (h' : Ran statements used x') : x = x' := by
  have hnotRefused {statement : Statement} (hnext : statements[used.length]? = some statement)
      (hlength : used.length = statements.length) : False := by
    rw [hlength, List.getElem?_eq_none (Nat.le_refl _)] at hnext
    exact nomatch hnext
  cases h with
  | complete hlength hused =>
    rcases h'.complete_or_refused hused with ⟨-, rfl⟩ | ⟨statement, hnext, -, -⟩
    · rfl
    · exact (hnotRefused hnext hlength).elim
  | refused hused hnext hsuspect =>
    rcases h'.complete_or_refused hused with ⟨hlength, -⟩ | ⟨statement, hnext', -, rfl⟩
    · exact (hnotRefused hnext hlength).elim
    · rw [Option.some.inj (hnext.symm.trans hnext')]
  | @stopped earlier reply err hlast hearlier hreply =>
    have hnotNone (hused : ∀ reply ∈ used, reply.passedOn? = none) : False := by
      rw [hused reply (by rw [hlast]; exact List.mem_concat_self)] at hreply
      exact nomatch hreply
    cases h' with
    | complete _ hused => exact (hnotNone hused).elim
    | refused hused _ _ => exact (hnotNone hused).elim
    | stopped hlast' _ hreply' =>
      obtain ⟨-, heq⟩ := List.append_inj' (hlast.symm.trans hlast') rfl
      obtain rfl := List.singleton_inj.mp heq
      rw [Option.some.inj (hreply.symm.trans hreply')]

end

namespace Operation.Ended

variable {e : Entity} {op : Operation α} {used : List Reply} {x : Except Error α}

private theorem not_valid {r : Record} (hr : e.firstInvalid? op.records = some r) :
    ¬∀ r ∈ op.records, (e.validate r).isEmpty = true := by
  intro hvalid
  obtain ⟨hmem, hinvalid⟩ := Entity.of_firstInvalid? hr
  rw [hvalid r hmem] at hinvalid
  exact nomatch hinvalid

/-- An operation ends after so many of the answers to come and with such a result, and in no other way. -/
theorem unique {replies : List Reply} {n n' : Nat} {x' : Except Error α}
    (h : op.Ended e (Session.answers n replies) x) (h' : op.Ended e (Session.answers n' replies) x') :
    n = n' ∧ x = x' := by
  have hzero {n : Nat} (hnil : Session.answers n replies = []) : n = 0 := by
    rw [← Session.length_answers n replies, hnil, List.length_nil]
  cases h with
  | invalid hr hnil =>
    cases h' with
    | invalid hr' hnil' =>
      rw [Option.some.inj (hr.symm.trans hr'), hzero hnil, hzero hnil']
      exact ⟨rfl, rfl⟩
    | unwritable hvalid _ _ => exact (not_valid hr hvalid).elim
    | ran hvalid _ _ _ _ => exact (not_valid hr hvalid).elim
  | unwritable hvalid hstatements hnil =>
    cases h' with
    | invalid hr' _ => exact (not_valid hr' hvalid).elim
    | unwritable _ hstatements' hnil' =>
      rw [Except.error.inj (hstatements.symm.trans hstatements'), hzero hnil, hzero hnil']
      exact ⟨rfl, rfl⟩
    | ran _ hstatements' _ _ _ => exact nomatch hstatements.symm.trans hstatements'
  | ran hvalid hstatements hle hpassed hran =>
    cases h' with
    | invalid hr' _ => exact (not_valid hr' hvalid).elim
    | unwritable _ hstatements' _ => exact nomatch hstatements.symm.trans hstatements'
    | ran _ hstatements' hle' hpassed' hran' =>
      obtain rfl := Except.ok.inj (hstatements.symm.trans hstatements')
      rw [Session.length_answers] at hle hpassed hle' hpassed'
      obtain rfl : n = n' := Nat.le_antisymm (Nat.not_lt.mp (hran'.not_lt hran hle hpassed))
        (Nat.not_lt.mp (hran.not_lt hran' hle' hpassed'))
      exact ⟨rfl, by rw [hran.eq_of_same hran']⟩

/-! ### What an end is told from -/

theorem length_le_limit (h : op.Ended e used x) : used.length ≤ op.limit := by
  cases h with
  | invalid hr hnil => rw [hnil]; exact Nat.zero_le _
  | unwritable hvalid hstatements hnil => rw [hnil]; exact Nat.zero_le _
  | ran hvalid hstatements hlength hpassed hran => exact Nat.le_trans hlength (length_statements_le hstatements)

theorem not_isBackend (h : op.Ended e used x) {err : Error} (hx : x = .error err) : err.isBackend = false := by
  cases h with
  | invalid hr hnil => rw [← Except.error.inj hx]; rfl
  | unwritable hvalid hstatements hnil =>
    obtain rfl := Except.error.inj hx
    exact not_isBackend_of_isValidation (op.failsWith_statements e _ hstatements)
  | ran hvalid hstatements hlength hpassed hran =>
    cases hran with
    | complete hcomplete hused => exact not_isBackend_of_isDecode (op.failsWith_result e _ err hx)
    | stopped hlast hearlier hreply =>
      obtain rfl := Except.error.inj hx
      exact (Reply.error?_of_passedOn? hreply).2
    | refused hused hnext hsuspect => rw [← Except.error.inj hx]; rfl

/-- A rejection is an end. -/
theorem of_rejected {err : Error} (h : op.Rejected e used err) : op.Ended e used (.error err) := by
  cases h with
  | invalid hr hnil => exact .invalid hr hnil
  | unwritable hvalid hstatements hnil => exact .unwritable hvalid hstatements hnil
  | refused hvalid hstatements hpassed hused hnext hsuspect =>
    obtain ⟨hlt, -⟩ := List.getElem?_eq_some_iff.mp hnext
    exact .ran hvalid hstatements (Nat.le_of_lt hlt) hpassed (.refused hused hnext hsuspect)

/-- A failure that is passed on is the result. -/
theorem eq_error_of_passedOn? (h : op.Ended e used x) {reply : Reply} (hmem : reply ∈ used) {err : Error}
    (hreply : reply.passedOn? = some err) : x = .error err := by
  have hnone (hused : ∀ reply ∈ used, reply.passedOn? = none) : x = .error err := by
    rw [hused reply hmem] at hreply
    simp at hreply
  cases h with
  | invalid hr hnil => simp [hnil] at hmem
  | unwritable hvalid hstatements hnil => simp [hnil] at hmem
  | ran hvalid hstatements hlength hpassed hran =>
    cases hran with
    | complete hcomplete hused => exact hnone hused
    | stopped hlast hearlier hlastReply =>
      -- no failure was passed on before the last answer
      rw [hlast, List.mem_append, List.mem_singleton] at hmem
      rcases hmem with hmem | rfl
      · rw [hearlier reply hmem] at hreply
        simp at hreply
      · rw [hreply] at hlastReply
        rw [Option.some.inj hlastReply]
        rfl
    | refused hused hnext hsuspect => exact hnone hused

/-- A row that cannot be read is the result. -/
theorem eq_error_of_readFault (h : op.Ended e used x) {reply : Reply} (hmem : reply ∈ used) {err : Error}
    (hreply : op.ReadFault e err reply) : x = .error err := by
  have hone := limit_eq_one_of_result (result_eq_error_iff.mpr hreply)
  have hlimit := h.length_le_limit
  rw [hone] at hlimit
  -- there is one answer, and it has rows
  obtain rfl : used = [reply] := by
    cases used with
    | nil => simp at hmem
    | cons first rest =>
      have hrest : rest = [] := List.length_eq_zero_iff.mp (Nat.le_zero.mp (Nat.le_of_succ_le_succ hlimit))
      rw [hrest] at hmem ⊢
      rw [List.mem_singleton.mp hmem]
  have hrows : reply.passedOn? = none := by
    cases reply with
    | rows columns cells => rfl
    | _ => exact hreply.elim
  cases h with
  | invalid hr hnil => simp at hnil
  | unwritable hvalid hstatements hnil => simp at hnil
  | ran hvalid hstatements hlength hpassed hran =>
    have hle := length_statements_le hstatements
    rcases hran.complete_or_refused (by simpa using hrows) with ⟨-, rfl⟩ | ⟨statement, hnext, -, -⟩
    · exact result_eq_error_iff.mpr hreply
    · obtain ⟨hlt, -⟩ := List.getElem?_eq_some_iff.mp hnext
      rw [List.length_singleton] at hlt
      omega

/-- An operation that failed was rejected, a failure was passed on to it, or a row could not be read. -/
theorem failed (h : op.Ended e used x) {err : Error} (hx : x = .error err) :
    op.Rejected e used err ∨ (∃ reply ∈ used, reply.passedOn? = some err) ∨
      ∃ reply ∈ used, op.ReadFault e err reply := by
  cases h with
  | invalid hr hnil =>
    obtain rfl := Except.error.inj hx
    exact .inl (.invalid hr hnil)
  | unwritable hvalid hstatements hnil =>
    obtain rfl := Except.error.inj hx
    exact .inl (.unwritable hvalid hstatements hnil)
  | ran hvalid hstatements hlength hpassed hran =>
    cases hran with
    | complete hcomplete hused =>
      have hresult : op.result e (used.map Reply.received?) = .error err := hx
      have hone := limit_eq_one_of_result hresult
      have hle := length_statements_le hstatements
      match used with
      | [] =>
        rw [op.result_of_none e (by simp)] at hresult
        exact nomatch hresult
      | [reply] => exact .inr (.inr ⟨reply, List.mem_singleton_self reply, result_eq_error_iff.mp hresult⟩)
      | _ :: _ :: _ =>
        simp only [List.length_cons] at hcomplete
        omega
    | @stopped earlier reply err' hlast hearlier hreply =>
      obtain rfl := Except.error.inj hx
      refine .inr (.inl ⟨reply, ?_, hreply⟩)
      rw [hlast]
      exact List.mem_concat_self
    | refused hused hnext hsuspect =>
      obtain rfl := Except.error.inj hx
      exact .inl (.refused hvalid hstatements hpassed hused hnext hsuspect)

/-- The failures of an operation. -/
theorem eq_error_iff {replies : List Reply} {n : Nat} (h : op.Ended e (Session.answers n replies) x) (err : Error) :
    x = .error err ↔ op.Rejected e (Session.answers n replies) err ∨
      (∃ reply ∈ Session.answers n replies, reply.passedOn? = some err) ∨
        ∃ reply ∈ Session.answers n replies, op.ReadFault e err reply := by
  refine ⟨h.failed, ?_⟩
  rintro (hrejected | ⟨reply, hmem, hreply⟩ | ⟨reply, hmem, hreply⟩)
  · exact (h.unique (of_rejected hrejected)).2
  · exact h.eq_error_of_passedOn? hmem hreply
  · exact h.eq_error_of_readFault hmem hreply

/-- An operation that did not fail had all its statements answered. -/
theorem answered (h : op.Ended e used x) {a : α} (hx : x = .ok a) :
    ∃ statements, op.statements e = .ok statements ∧ used.length = statements.length ∧
      op.result e (used.map Reply.received?) = .ok a := by
  cases h with
  | invalid hr hnil => exact nomatch hx
  | unwritable hvalid hstatements hnil => exact nomatch hx
  | ran hvalid hstatements hlength hpassed hran =>
    cases hran with
    | complete hcomplete hused => exact ⟨_, hstatements, hcomplete, hx⟩
    | stopped hlast hearlier hreply => exact nomatch hx
    | refused hused hnext hsuspect => exact nomatch hx

/-- If every statement meets a failure of the backend, the result is empty. -/
theorem eq_empty (h : op.Ended e used x) (hpos : 0 < used.length) (hlimit : used.length = op.limit)
    (hused : ∀ reply ∈ used, reply.reported?.isSome = true) : x = .ok op.empty := by
  cases h with
  | invalid hr hnil => simp [hnil] at hpos
  | unwritable hvalid hstatements hnil => simp [hnil] at hpos
  | ran hvalid hstatements hlength hpassed hran =>
    have hnone : ∀ reply ∈ used, reply.passedOn? = none := by
      intro reply hreply
      exact (passedOn?_of_reported? (hused reply hreply)).1
    rcases hran.complete_or_refused hnone with ⟨-, rfl⟩ | ⟨statement, hnext, -, rfl⟩
    · refine op.result_of_none e fun reply? hmem => ?_
      obtain ⟨reply, hreply, rfl⟩ := List.mem_map.mp hmem
      exact (passedOn?_of_reported? (hused reply hreply)).2
    · -- as many answers were used as there can be statements, so that there is no next one
      obtain ⟨hlt, -⟩ := List.getElem?_eq_some_iff.mp hnext
      have hle := length_statements_le hstatements
      omega

end Operation.Ended

/-- Every operation accounts for its connections, whatever they answer. -/
theorem Operation.accounted (e : Entity) (op : Operation α) (s : Session) :
    ∃ n s' x, (op.run e).on s = (x, s') ∧ op.Accounted e s s' n x := by
  obtain ⟨n, s', x, hrun, hasked, hended⟩ := op.run_ended e s
  have hlength := Session.length_answers n s.replies
  refine ⟨n, s', x, hrun, ?_, hasked.connections, hasked.replies, hasked.statements, hasked.reports, hended,
    fun n' x' h' => h'.unique hended, fun err hx => hended.not_isBackend hx, hended.eq_error_iff, fun a hx => ?_,
    fun hpos hlimit hused => ?_⟩
  · rw [← hlength]
    exact hended.length_le_limit
  · obtain ⟨statements, hstatements, hall, hresult⟩ := hended.answered hx
    exact ⟨statements, hstatements, hlength ▸ hall, hresult⟩
  · exact hended.eq_empty (by rw [hlength]; exact hpos) (by rw [hlength]; exact hlimit) hused

/-- A bulk insertion goes on after a failure of the backend, which is reported, and ends with the failure of another
sort that the second statement meets, which is not; the third is not attempted.  Of the rows that are read then the
second cannot be. -/
theorem Operation.accounted_failures :
    let e : Entity := ⟨['E'], [], ['t'], [{ name := ['k'], type := ⟨.int32, false⟩, isKey := true }]⟩
    let deadlock : Error := .backend (.other "deadlock".toList)
    let reset : Error := .other "connection reset".toList
    let s : Session :=
      { replies := [.failure deadlock, .noConnection reset, .rows [['k']] [[.int 1], [.string ['x']]]] }
    ∃ s₁ s₂, ((createAll [[.int 1], [.int 2], [.int 3]]).run e).on s = (.error reset, s₁) ∧
      s₁.connections = 2 ∧ s₁.reports = [deadlock] ∧
      (all.run e).on s₁ = (.error (.decode ['k'] (.mismatch .int32 "string".toList)), s₂) ∧
      s₂.connections = 3 ∧ s₂.reports = [deadlock] := by
  intro e deadlock reset s
  obtain ⟨n, s₁, x, hrun, h⟩ := accounted e (createAll [[.int 1], [.int 2], [.int 3]]) s
  have hused : Session.answers 2 s.replies = [.failure deadlock] ++ [.noConnection reset] := rfl
  obtain ⟨rfl, rfl⟩ := h.decided 2 (.error reset)
    (.ran (by decide) rfl (by decide) (by decide) (.stopped hused (by decide) rfl))
  obtain ⟨m, s₂, y, hread, h'⟩ := accounted e all s₁
  have hreplies : s₁.replies = [.rows [['k']] [[.int 1], [.string ['x']]]] := h.replies
  obtain ⟨rfl, rfl⟩ := h'.decided 1 (.error (.decode ['k'] (.mismatch .int32 "string".toList))) (by
    rw [hreplies]
    exact .ran (by decide) rfl (by decide) (by decide) (.complete rfl (by decide)))
  refine ⟨s₁, s₂, hrun, h.connections, h.reports, hread, ?_, ?_⟩
  · rw [h'.connections, h.connections]
  · rw [h'.reports, h.reports, hreplies]
    rfl

end EntityStore
