import EntityStore.Proofs.Access.Operation

/-!
# What running statements does to a session

A statement that the guard refuses leaves no mark except in the trace.  Every other statement takes one answer, the
next that the session has, and asks for one connection; what the answer is decides alone whether the sink is told,
whether the caller gets a failure and whether anything was received (`perform_reached`).  Running several statements
stops at the first that is refused or whose failure is passed on (`mapM_perform_cases`).  An operation is such a run
between the checks of its records and the reading of its result (`Operation.run_ended`).
-/

namespace EntityStore

variable {α β : Type}

namespace Reply

/-- The failure that an answer is. -/
def error? : Reply → Option Error
  | noConnection err | failure err => some err
  | _ => none

/-- The failure that the sink is told of. -/
def reported? (reply : Reply) : Option Error :=
  reply.error?.filter Error.isBackend

/-- The failure that the caller gets. -/
def passedOn? (reply : Reply) : Option Error :=
  reply.error?.filter fun err => !err.isBackend

/-- The answer itself, if it is no failure. -/
def received? (reply : Reply) : Option Reply :=
  if reply.error?.isNone then some reply else none

/-- What the caller of a statement gets. -/
def outcome (reply : Reply) : Except Error (Option Reply) :=
  match reply.passedOn? with
  | some err => .error err
  | none => .ok reply.received?

theorem error?_of_passedOn? {reply : Reply} {err : Error} (h : reply.passedOn? = some err) :
    reply.error? = some err ∧ err.isBackend = false := by
  simpa [passedOn?, Option.filter_eq_some_iff] using h

end Reply

namespace Session

/-- The answer to the next statement; once there are none left, nothing is answered. -/
def next (s : Session) : Reply :=
  s.replies.head?.getD .nothing

/-- The answers to the next statements. -/
def answers : Nat → List Reply → List Reply
  | 0, _ => []
  | n + 1, replies => replies.head?.getD .nothing :: answers n replies.tail

theorem answers_one (s : Session) : answers 1 s.replies = [s.next] := rfl

theorem length_answers (n : Nat) (replies : List Reply) : (answers n replies).length = n := by
  induction n generalizing replies with
  | zero => rfl
  | succ n ih => rw [answers, List.length_cons, ih]

theorem answers_add (m n : Nat) (replies : List Reply) :
    answers (m + n) replies = answers m replies ++ answers n (replies.drop m) := by
  induction m generalizing replies with
  | zero => simp [answers]
  | succ m ih =>
    rw [Nat.succ_add, answers, answers, ih, List.drop_tail]
    rfl

theorem mem_or_eq_of_mem_answers {n : Nat} {replies : List Reply} {reply : Reply}
    (h : reply ∈ answers n replies) : reply ∈ replies ∨ reply = .nothing := by
  induction n generalizing replies with
  | zero => simp [answers] at h
  | succ n ih =>
    rw [answers, List.mem_cons] at h
    cases replies with
    | nil =>
      rcases h with h | h
      · exact .inr h
      · exact ih h
    | cons first rest =>
      rcases h with h | h
      · exact .inl (List.mem_cons.mpr (.inl h))
      · exact (ih h).imp_left (List.mem_cons_of_mem first)

/-- What was done to a session when it asked for `n` connections and handed `sent` to them. -/
structure Asked (s s' : Session) (n : Nat) (sent : List Statement) : Prop where
  connections : s'.connections = s.connections + n
  replies : s'.replies = s.replies.drop n
  reports : s'.reports = s.reports ++ (answers n s.replies).filterMap Reply.reported?
  statements : s'.statements = s.statements ++ sent
  length_le : sent.length ≤ n

theorem Asked.refl (s : Session) : s.Asked s 0 [] :=
  ⟨rfl, rfl, by simp [answers], by simp, Nat.le_refl _⟩

theorem asked_note (s : Session) (event : Event) : s.Asked (s.note event) 0 [] :=
  ⟨rfl, rfl, by simp [note, answers], by simp [note], Nat.le_refl _⟩

theorem Asked.trans {s s' s'' : Session} {m n : Nat} {sent more : List Statement} (h : s.Asked s' m sent)
    (h' : s'.Asked s'' n more) : s.Asked s'' (m + n) (sent ++ more) := by
  refine ⟨?_, ?_, ?_, ?_, ?_⟩
  · rw [h'.connections, h.connections, Nat.add_assoc]
  · rw [h'.replies, h.replies, List.drop_drop]
  · rw [h'.reports, h.reports, h.replies, answers_add, List.filterMap_append, List.append_assoc]
  · rw [h'.statements, h.statements, List.append_assoc]
  · have hsent := h.length_le
    have hmore := h'.length_le
    rw [List.length_append]
    omega

end Session

namespace Action

/-- What work does on a session. -/
def on (a : Action α) (s : Session) : Except Error α × Session :=
  a s

theorem on_ofExcept (x : Except Error α) (s : Session) : (ofExcept x).on s = (x, s) := by
  cases x <;> rfl

theorem on_bind (a : Action α) (f : α → Action β) (s : Session) :
    (a >>= f).on s = match a.on s with
      | (.ok x, s') => (f x).on s'
      | (.error err, s') => (.error err, s') := by
  show (match a s with | (x, s') => ExceptT.bindCont f x s') = _
  unfold on
  cases a s with
  | mk x s' => cases x <;> rfl

theorem on_tryCatch (a : Action α) (handler : Error → Action α) (s : Session) :
    (tryCatch a handler).on s = match a.on s with
      | (.ok x, s') => (.ok x, s')
      | (.error err, s') => (handler err).on s' := by
  unfold on
  simp only [tryCatch, tryCatchThe, MonadExceptOf.tryCatch, ExceptT.tryCatch, ExceptT.mk, Bind.bind, StateT.bind]
  cases a s with
  | mk x s' => cases x <;> rfl

theorem on_guard (sql : Text) (s : Session) :
    (guard sql).on s =
      if Guard.isSuspect sql = true then (.error (.injectionSuspected sql), s.note (.refused sql))
      else (.ok (), s) := by
  unfold guard Guard.check
  by_cases hsuspect : Guard.isSuspect sql = true
  · rw [if_pos hsuspect, if_pos hsuspect]
    rfl
  · rw [if_neg hsuspect, if_neg hsuspect]
    rfl

end Action

/-! ### One statement -/

/-- The statement, unless there is no connection to hand it to. -/
def Statement.reached (statement : Statement) : Reply → List Statement
  | .noConnection _ => []
  | _ => [statement]

private theorem send_eq (statement : Statement) (s : Session) :
    s.send statement =
      ((match s.next.error? with | some err => .error err | none => .ok s.next),
        { s with
          connections := s.connections + 1
          replies := s.replies.tail
          statements := s.statements ++ statement.reached s.next }) := by
  cases hreplies : s.replies with
  | nil => simp [Session.send, Session.next, hreplies, Reply.error?, Statement.reached]
  | cons reply rest => cases reply <;> simp [Session.send, Session.next, hreplies, Reply.error?, Statement.reached]

/-- A session after a statement was handed to a connection, the sink aside. -/
private def handed (statement : Statement) (s : Session) : Session :=
  let announced := s.announce statement.sql statement.bindings.length
  { announced with
    connections := s.connections + 1
    replies := s.replies.tail
    statements := s.statements ++ statement.reached s.next }

private theorem on_sendSome (statement : Statement) (s : Session) :
    (do let reply ← Action.send statement; pure (some reply) : Action (Option Reply)).on
        (s.announce statement.sql statement.bindings.length) =
      (match s.next.error? with
        | some err => .error err
        | none => .ok (some s.next), handed statement s) := by
  have hsend : (Action.send statement).on (s.announce statement.sql statement.bindings.length) =
      (s.announce statement.sql statement.bindings.length).send statement := rfl
  rw [Action.on_bind, hsend, send_eq]
  have hnext : (s.announce statement.sql statement.bindings.length).next = s.next := rfl
  rw [hnext]
  cases s.next.error? <;> rfl

private theorem Statement.length_reached_le (statement : Statement) (reply : Reply) :
    (statement.reached reply).length ≤ 1 := by
  cases reply <;> simp [reached]

theorem Statement.eq_of_mem_reached {statement st : Statement} {reply : Reply} (h : st ∈ statement.reached reply) :
    st = statement := by
  cases reply <;> simp_all [reached]

private theorem asked_handed {statement : Statement} {s : Session} (h : s.next.reported? = none) :
    s.Asked (handed statement s) 1 (statement.reached s.next) := by
  refine ⟨rfl, List.drop_one.symm, ?_, rfl, Statement.length_reached_le _ _⟩
  simp [handed, Session.answers_one, h, Session.announce, Session.note]

private theorem asked_report {statement : Statement} {s : Session} {err : Error}
    (h : s.next.reported? = some err) :
    s.Asked ((handed statement s).report err) 1 (statement.reached s.next) := by
  unfold Session.report
  split <;> refine ⟨rfl, List.drop_one.symm, ?_, rfl, Statement.length_reached_le _ _⟩ <;>
    simp [handed, Session.answers_one, h, Session.announce, Session.note]

/-- A statement that the guard refuses takes no answer and asks for no connection. -/
theorem perform_of_isSuspect {statement : Statement} (h : Guard.isSuspect statement.sql = true) (s : Session) :
    ∃ s', s.Asked s' 0 [] ∧
      (Action.perform statement).on s = (.error (.injectionSuspected statement.sql), s') := by
  have hguard := Action.on_guard statement.sql s
  rw [if_pos h] at hguard
  refine ⟨s.note (.refused statement.sql), s.asked_note _, ?_⟩
  rw [Action.perform, Action.on_bind, hguard]

private theorem on_perform {statement : Statement} (h : Guard.isSuspect statement.sql = false) (s : Session) :
    (Action.perform statement).on s = (s.next.outcome,
      match s.next.reported? with
      | some err => (handed statement s).report err
      | none => handed statement s) := by
  have hguard := Action.on_guard statement.sql s
  rw [if_neg (by simp [h])] at hguard
  have halter : (Action.alter (·.announce statement.sql statement.bindings.length)).on s =
      (.ok (), s.announce statement.sql statement.bindings.length) := rfl
  rw [Action.perform, Action.on_bind, hguard]
  dsimp only
  rw [Action.on_bind, halter]
  dsimp only
  rw [Action.on_tryCatch, on_sendSome]
  -- an answer is no failure, one that the sink is told of, or one that the caller gets
  cases herror : s.next.error? with
  | none => simp [Reply.outcome, Reply.passedOn?, Reply.received?, Reply.reported?, herror]
  | some err =>
    dsimp only
    by_cases hbackend : err.isBackend = true
    · rw [if_pos hbackend]
      simp only [Reply.outcome, Reply.passedOn?, Reply.received?, Reply.reported?, herror, Option.filter, hbackend]
      rfl
    · rw [if_neg hbackend]
      simp only [Reply.outcome, Reply.passedOn?, Reply.reported?, herror, Option.filter, hbackend]
      rfl

/-- Every other statement takes the next answer, which decides what the caller gets and whether the statement reaches a
connection. -/
theorem perform_reached {statement : Statement} (h : Guard.isSuspect statement.sql = false) (s : Session) :
    ∃ s', s.Asked s' 1 (statement.reached s.next) ∧ (Action.perform statement).on s = (s.next.outcome, s') := by
  refine ⟨_, ?_, on_perform h s⟩
  cases hreported : s.next.reported? with
  | none => exact asked_handed hreported
  | some err => exact asked_report hreported

/-- Whether an event announces a statement. -/
def Event.isStatement : Event → Bool
  | .statement _ _ _ _ => true
  | _ => false

/-- The event that announces a statement. -/
def Settings.announcement (settings : Settings) (statement : Statement) : Event :=
  let shown := shortened settings.maxSqlLength? statement.sql
  .statement settings.level (.ofSql shown) statement.bindings.length shown

/-- The trace announces statements, each once and in order. -/
structure Session.Announced (s s' : Session) (statements : List Statement) : Prop where
  settings : s'.settings = s.settings
  events : s'.events.filter Event.isStatement =
    s.events.filter Event.isStatement ++ statements.map s.settings.announcement

theorem Session.Announced.refl (s : Session) : s.Announced s [] :=
  ⟨rfl, by simp⟩

theorem Session.Announced.trans {s s' s'' : Session} {statements more : List Statement}
    (h : s.Announced s' statements) (h' : s'.Announced s'' more) : s.Announced s'' (statements ++ more) := by
  refine ⟨h'.settings.trans h.settings, ?_⟩
  rw [h'.events, h.events, h.settings, List.map_append, List.append_assoc]

private theorem announced_handed (statement : Statement) (s : Session) : s.Announced (handed statement s) [statement] :=
  ⟨rfl, List.filter_append ..⟩

private theorem announced_report (s : Session) (err : Error) : s.Announced (s.report err) [] := by
  unfold Session.report
  split
  · exact ⟨rfl, List.filter_append ..⟩
  · exact ⟨rfl, (List.append_nil _).symm⟩

theorem perform_announced_of_isSuspect {statement : Statement} (h : Guard.isSuspect statement.sql = true)
    (s : Session) : s.Announced ((Action.perform statement).on s).2 [] := by
  have hguard := Action.on_guard statement.sql s
  rw [if_pos h] at hguard
  rw [Action.perform, Action.on_bind, hguard]
  exact ⟨rfl, List.filter_append ..⟩

/-- A statement that passes the guard is announced, whatever becomes of it. -/
theorem perform_announced {statement : Statement} (h : Guard.isSuspect statement.sql = false) (s : Session) :
    s.Announced ((Action.perform statement).on s).2 [statement] := by
  rw [on_perform h]
  cases s.next.reported? with
  | none => exact announced_handed statement s
  | some err => exact (announced_handed statement s).trans (announced_report _ err)

/-! ### Statements one after another -/

/-- How running statements ends, given the answers that were used. -/
inductive Ran (statements : List Statement) (used : List Reply) : Except Error (List (Option Reply)) → Prop where
  /-- Every statement was answered. -/
  | complete (hlength : used.length = statements.length) (hused : ∀ reply ∈ used, reply.passedOn? = none) :
    Ran statements used (.ok (used.map Reply.received?))
  /-- The last answer was a failure that the caller gets. -/
  | stopped {earlier : List Reply} {reply : Reply} {err : Error} (hused : used = earlier ++ [reply])
    (hearlier : ∀ reply ∈ earlier, reply.passedOn? = none) (hreply : reply.passedOn? = some err) :
    Ran statements used (.error err)
  /-- The next statement was refused. -/
  | refused {statement : Statement} (hused : ∀ reply ∈ used, reply.passedOn? = none)
    (hnext : statements[used.length]? = some statement) (hsuspect : Guard.isSuspect statement.sql = true) :
    Ran statements used (.error (.injectionSuspected statement.sql))

/-- If no failure is passed on, either all statements were answered or the next one was refused. -/
theorem Ran.complete_or_refused {statements : List Statement} {used : List Reply}
    {x : Except Error (List (Option Reply))} (h : Ran statements used x)
    (hused : ∀ reply ∈ used, reply.passedOn? = none) :
    (used.length = statements.length ∧ x = .ok (used.map Reply.received?)) ∨
      ∃ statement, statements[used.length]? = some statement ∧ Guard.isSuspect statement.sql = true ∧
        x = .error (.injectionSuspected statement.sql) := by
  cases h with
  | complete hlength _ => exact .inl ⟨hlength, rfl⟩
  | @stopped earlier reply err hlast _ hreply =>
    have hmem : reply ∈ used := by
      rw [hlast]
      exact List.mem_concat_self
    rw [hused reply hmem] at hreply
    simp at hreply
  | refused _ hnext hsuspect => exact .inr ⟨_, hnext, hsuspect, rfl⟩

/-- One more statement before others, whose answer did not stop them. -/
private theorem Ran.cons {statements : List Statement} {used : List Reply} {x : Except Error (List (Option Reply))}
    {reply : Reply} (statement : Statement) (h : Ran statements used x) (hreply : reply.passedOn? = none) :
    Ran (statement :: statements) (reply :: used) (x.map (reply.received? :: ·)) := by
  have hcons {used : List Reply} (hused : ∀ reply ∈ used, reply.passedOn? = none) :
      ∀ r ∈ reply :: used, r.passedOn? = none := by
    intro r hr
    rcases List.mem_cons.mp hr with rfl | hr
    · exact hreply
    · exact hused r hr
  cases h with
  | complete hlength hused => exact .complete (by simp [hlength]) (hcons hused)
  | stopped hused hearlier hlast => exact .stopped (by rw [hused]; rfl) (hcons hearlier) hlast
  | refused hused hnext hsuspect => exact .refused (hcons hused) (by simpa using hnext) hsuspect

/-- The statements that reach a connection, each by the answer at its own place. -/
def Statement.reachedAll (statements : List Statement) (used : List Reply) : List Statement :=
  (List.zipWith Statement.reached statements used).flatten

/-- A statement that reached a connection was answered. -/
theorem Statement.mem_take_of_mem_reachedAll {statements : List Statement} {used : List Reply} {st : Statement}
    (h : st ∈ reachedAll statements used) : st ∈ statements.take used.length := by
  induction statements generalizing used with
  | nil => simp [reachedAll] at h
  | cons statement rest ih =>
    cases used with
    | nil => simp [reachedAll] at h
    | cons reply used =>
      rw [reachedAll, List.zipWith_cons_cons, List.flatten_cons, List.mem_append] at h
      rw [List.length_cons, List.take_succ_cons]
      rcases h with h | h
      · rw [eq_of_mem_reached h]
        exact List.mem_cons_self ..
      · exact List.mem_cons_of_mem statement (ih h)

/-- What running statements has done to a session when it ended after `n` answers. -/
structure Performed (statements : List Statement) (s s' : Session) (n : Nat)
    (x : Except Error (List (Option Reply))) : Prop where
  asked : s.Asked s' n (Statement.reachedAll statements (Session.answers n s.replies))
  le_length : n ≤ statements.length
  /-- A statement that was answered had passed the guard. -/
  passed : ∀ st ∈ statements.take n, Guard.isSuspect st.sql = false
  ran : Ran statements (Session.answers n s.replies) x

private theorem performed_nil (s : Session) : Performed [] s s 0 (.ok []) := by
  refine ⟨.refl s, Nat.le_refl _, by simp, ?_⟩
  exact .complete rfl (by simp [Session.answers])

private theorem performed_refused {statement : Statement} {s s' : Session} (rest : List Statement)
    (hsuspect : Guard.isSuspect statement.sql = true) (hasked : s.Asked s' 0 []) :
    Performed (statement :: rest) s s' 0 (.error (.injectionSuspected statement.sql)) := by
  refine ⟨hasked, Nat.zero_le _, by simp, ?_⟩
  exact .refused (by simp [Session.answers]) rfl hsuspect

private theorem performed_stopped {statement : Statement} {s s' : Session} {err : Error} (rest : List Statement)
    (hsuspect : Guard.isSuspect statement.sql = false) (hasked : s.Asked s' 1 (statement.reached s.next))
    (hreply : s.next.passedOn? = some err) : Performed (statement :: rest) s s' 1 (.error err) := by
  have hsent : Statement.reachedAll (statement :: rest) (Session.answers 1 s.replies) = statement.reached s.next := by
    simp [Statement.reachedAll, Session.answers_one]
  refine ⟨hsent ▸ hasked, by simp, by simpa using hsuspect, ?_⟩
  exact .stopped (List.nil_append _).symm (by simp) hreply

private theorem Performed.cons {statement : Statement} {rest : List Statement} {s s' s'' : Session} {n : Nat}
    {x : Except Error (List (Option Reply))} (hsuspect : Guard.isSuspect statement.sql = false)
    (hasked : s.Asked s' 1 (statement.reached s.next)) (hreply : s.next.passedOn? = none)
    (h : Performed rest s' s'' n x) :
    Performed (statement :: rest) s s'' (n + 1) (x.map (s.next.received? :: ·)) := by
  -- the rest finds the answers after the first
  have htail : s'.replies = s.replies.tail := hasked.replies.trans List.drop_one
  refine ⟨?_, ?_, fun st hst => ?_, ?_⟩
  · have hboth := hasked.trans h.asked
    rw [Nat.add_comm, htail] at hboth
    exact hboth
  · rw [List.length_cons]
    exact Nat.succ_le_succ h.le_length
  · rw [List.take_succ_cons] at hst
    rcases List.mem_cons.mp hst with rfl | hst
    · exact hsuspect
    · exact h.passed st hst
  · have hran := h.ran.cons statement hreply
    rw [htail] at hran
    exact hran

/-- Running statements uses one answer for each that passes the guard, and stops where one does not, or where a failure
is passed on.  Those that were answered were announced. -/
theorem mapM_perform_cases (statements : List Statement) (s : Session) :
    ∃ n s' x, (statements.mapM Action.perform).on s = (x, s') ∧ Performed statements s s' n x ∧
      s.Announced s' (statements.take n) := by
  -- the rest is run on the session that the first statement leaves behind
  induction statements generalizing s with
  | nil => exact ⟨0, s, .ok [], rfl, performed_nil s, .refl s⟩
  | cons statement rest ih =>
    rw [List.mapM_cons, Action.on_bind]
    cases hsuspect : Guard.isSuspect statement.sql with
    | true =>
      obtain ⟨s', hasked, hrun⟩ := perform_of_isSuspect hsuspect s
      have hannounced := perform_announced_of_isSuspect hsuspect s
      rw [hrun] at hannounced ⊢
      exact ⟨0, s', _, rfl, performed_refused rest hsuspect hasked, hannounced⟩
    | false =>
      obtain ⟨s', hasked, hrun⟩ := perform_reached hsuspect s
      have hannounced := perform_announced hsuspect s
      rw [hrun] at hannounced ⊢
      rw [Reply.outcome]
      cases hreply : s.next.passedOn? with
      | some err => exact ⟨1, s', _, rfl, performed_stopped rest hsuspect hasked hreply, hannounced⟩
      | none =>
        obtain ⟨n, s'', x, hrest, hperformed, hothers⟩ := ih s'
        refine ⟨n + 1, s'', _, ?_, hperformed.cons hsuspect hasked hreply, hannounced.trans hothers⟩
        dsimp only
        rw [Action.on_bind, hrest]
        cases x <;> rfl

/-! ### Operations -/

private theorem on_requireValid (e : Entity) (r : Record) (s : Session) :
    (Repository.requireValid e r).on s =
      if (e.validate r).isEmpty = true then (.ok (), s)
      else (.error (.invalidEntity e.name (e.validate r)), s.note (.rejected e.name (e.validate r).length)) := by
  unfold Repository.requireValid
  by_cases hvalid : (e.validate r).isEmpty = true
  · simp only [if_pos hvalid]
    rfl
  · simp only [if_neg hvalid]
    rfl

/-- The first record that breaks a rule of its entity. -/
def Entity.firstInvalid? (e : Entity) (records : List Record) : Option Record :=
  records.find? fun r => !(e.validate r).isEmpty

theorem Entity.of_firstInvalid? {e : Entity} {records : List Record} {r : Record}
    (h : e.firstInvalid? records = some r) : r ∈ records ∧ (e.validate r).isEmpty = false := by
  refine ⟨List.mem_of_find?_eq_some h, ?_⟩
  simpa using List.find?_some h

/-- Either all records keep the rules, or the first that does not stops everything. -/
private theorem forM_requireValid_cases (e : Entity) (records : List Record) (s : Session) :
    ((∀ r ∈ records, (e.validate r).isEmpty = true) ∧
        (records.forM (Repository.requireValid e)).on s = (.ok (), s)) ∨
      ∃ r, e.firstInvalid? records = some r ∧ ∃ s', s.Asked s' 0 [] ∧
        (records.forM (Repository.requireValid e)).on s = (.error (.invalidEntity e.name (e.validate r)), s') := by
  induction records with
  | nil => exact .inl ⟨by simp, rfl⟩
  | cons r rest ih =>
    have hfirst := on_requireValid e r s
    have hcons : (r :: rest).forM (Repository.requireValid e) =
        Repository.requireValid e r >>= fun _ => rest.forM (Repository.requireValid e) := rfl
    rw [hcons, Action.on_bind, hfirst, Entity.firstInvalid?]
    by_cases hvalid : (e.validate r).isEmpty = true
    · rw [if_pos hvalid, List.find?_cons_of_neg (by simpa using hvalid)]
      rcases ih with ⟨hrest, hrun⟩ | hrest
      · refine .inl ⟨fun r' hr' => ?_, hrun⟩
        rcases List.mem_cons.mp hr' with rfl | hr'
        · exact hvalid
        · exact hrest r' hr'
      · exact .inr hrest
    · rw [if_neg hvalid, List.find?_cons_of_pos (by simpa using hvalid)]
      exact .inr ⟨r, rfl, _, s.asked_note _, rfl⟩

/-- An operation on records that keep the rules writes its statements and runs them, and its result is read from their
answers. -/
theorem Operation.on_run_of_valid {e : Entity} {op : Operation α}
    (hvalid : ∀ r ∈ op.records, (e.validate r).isEmpty = true) (s : Session) :
    (op.run e).on s = match op.statements e with
      | .error err => (.error err, s)
      | .ok statements => match (statements.mapM Action.perform).on s with
        | (.ok replies, s') => (op.result e replies, s')
        | (.error err, s') => (.error err, s') := by
  have hrecords : (op.records.forM (Repository.requireValid e)).on s = (.ok (), s) := by
    rcases forM_requireValid_cases e op.records s with ⟨-, hrun⟩ | ⟨r, hr, -⟩
    · exact hrun
    · obtain ⟨hmem, hinvalid⟩ := Entity.of_firstInvalid? hr
      exact absurd (hvalid r hmem) (by simp [hinvalid])
  rw [op.run_eq, Action.on_bind, hrecords]
  dsimp only
  rw [Action.on_bind, Action.on_ofExcept]
  cases op.statements e with
  | error err => rfl
  | ok statements =>
    dsimp only
    rw [Action.on_bind]
    cases (statements.mapM Action.perform).on s with
    | mk x s' =>
      cases x with
      | ok replies => exact Action.on_ofExcept _ s'
      | error err => rfl

/-- An operation on one record that breaks a rule ends with what the rules find wrong with it, and asks for nothing. -/
theorem Operation.on_run_of_invalid {e : Entity} {op : Operation α} {r : Record} (hrecords : op.records = [r])
    (hinvalid : e.validate r ≠ []) (s : Session) :
    (op.run e).on s =
      (.error (.invalidEntity e.name (e.validate r)), s.note (.rejected e.name (e.validate r).length)) := by
  have hforM : [r].forM (Repository.requireValid e) = Repository.requireValid e r := by simp
  rw [op.run_eq, hrecords, hforM, Action.on_bind, on_requireValid, if_neg (by simpa using hinvalid)]

/-- How an operation ends, given the answers that were used. -/
inductive Operation.Ended (e : Entity) (op : Operation α) (used : List Reply) : Except Error α → Prop where
  /-- A record breaks a rule of its entity, and none before it does. -/
  | invalid {r : Record} (hr : e.firstInvalid? op.records = some r) (hused : used = []) :
    Ended e op used (.error (.invalidEntity e.name (e.validate r)))
  /-- A statement cannot be written. -/
  | unwritable {err : Error} (hvalid : ∀ r ∈ op.records, (e.validate r).isEmpty = true)
    (hstatements : op.statements e = .error err) (hused : used = []) : Ended e op used (.error err)
  /-- Statements were run, and the result is read from their answers unless this ended early. -/
  | ran {statements : List Statement} {x : Except Error (List (Option Reply))}
    (hvalid : ∀ r ∈ op.records, (e.validate r).isEmpty = true) (hstatements : op.statements e = .ok statements)
    (hlength : used.length ≤ statements.length)
    (hpassed : ∀ st ∈ statements.take used.length, Guard.isSuspect st.sql = false) (hran : Ran statements used x) :
    Ended e op used (x.bind fun replies => op.result e replies)

/-- The statements of an operation that reach a connection, given the answers that were used. -/
def Operation.reached (e : Entity) (op : Operation α) (used : List Reply) : List Statement :=
  match op.statements e with
  | .ok statements => Statement.reachedAll statements used
  | .error _ => []

/-- What reaches a connection is one of the statements, and has passed the guard. -/
theorem Operation.Ended.of_mem_reached {e : Entity} {op : Operation α} {used : List Reply} {x : Except Error α}
    (h : op.Ended e used x) {st : Statement} (hst : st ∈ op.reached e used) :
    Guard.isSuspect st.sql = false ∧ ∃ statements, op.statements e = .ok statements ∧ st ∈ statements := by
  unfold reached at hst
  split at hst
  · next statements hstatements =>
    have hmem := Statement.mem_take_of_mem_reachedAll hst
    refine ⟨?_, statements, hstatements, List.mem_of_mem_take hmem⟩
    cases h with
    | invalid hr hused => simp [hused] at hmem
    | unwritable hvalid hunwritable hused => simp [hused] at hmem
    | ran hvalid hwritten hlength hpassed hran =>
      obtain rfl := Except.ok.inj (hwritten.symm.trans hstatements)
      exact hpassed st hmem
  · simp at hst

/-- What an operation does to a session, and how it ends. -/
theorem Operation.run_ended (e : Entity) (op : Operation α) (s : Session) :
    ∃ n s' x, (op.run e).on s = (x, s') ∧ s.Asked s' n (op.reached e (Session.answers n s.replies)) ∧
      op.Ended e (Session.answers n s.replies) x := by
  -- without an answer there is nothing to reach a connection
  have hnone : op.reached e (Session.answers 0 s.replies) = [] := by
    unfold reached
    cases op.statements e with
    | error err => rfl
    | ok statements => simp [Statement.reachedAll, Session.answers]
  rcases forM_requireValid_cases e op.records s with ⟨hvalid, -⟩ | ⟨r, hr, s', hasked, hrun⟩
  · rw [on_run_of_valid hvalid]
    cases hstatements : op.statements e with
    | error err => exact ⟨0, s, _, rfl, by rw [hnone]; exact .refl s, .unwritable hvalid hstatements rfl⟩
    | ok statements =>
      obtain ⟨n, s', x, hrun, hperformed, -⟩ := mapM_perform_cases statements s
      have hlength := Session.length_answers n s.replies
      refine ⟨n, s', _, ?_, by rw [reached, hstatements]; exact hperformed.asked,
        .ran hvalid hstatements (by rw [hlength]; exact hperformed.le_length)
          (by rw [hlength]; exact hperformed.passed) hperformed.ran⟩
      dsimp only
      rw [hrun]
      cases x <;> rfl
  · rw [op.run_eq, Action.on_bind, hrun]
    exact ⟨0, s', _, rfl, by rw [hnone]; exact hasked, .invalid hr rfl⟩

/-- What an operation hands to connections are statements that it writes. -/
theorem Operation.exists_sent (e : Entity) (op : Operation α) (s : Session) :
    ∃ sent, ((op.run e).on s).2.statements = s.statements ++ sent ∧
      ∀ st ∈ sent, ∃ statements, op.statements e = .ok statements ∧ st ∈ statements := by
  obtain ⟨n, s', x, hrun, hasked, hended⟩ := op.run_ended e s
  refine ⟨_, ?_, fun st hst => (hended.of_mem_reached hst).2⟩
  rw [hrun]
  exact hasked.statements

end EntityStore
