import EntityStore.Proofs.Access.Sending

/-!
# Records are written with their own values

The statements that write a record read as writes in which every column has the value of the record, whatever the
order in which the columns are named (`Operation.writes_ownValues`).  An update that may not set all its columns is
refused before anything is asked of the session.
-/

namespace EntityStore

open Operation

variable {e : Entity} {r : Record}

/-- A column may not be set if there is none of its name, or if it is part of the key or filled by the database. -/
theorem Entity.not_isUpdatable_iff {name : Text} :
    ¬e.isUpdatable name = true ↔
      e.column? name = none ∨ ∃ c, e.column? name = some c ∧ (c.isKey = true ∨ c.isIdentity = true) := by
  unfold isUpdatable
  cases e.column? name with
  | none => simp
  | some c => cases hkey : c.isKey <;> cases hidentity : c.isIdentity <;> simp [hkey, hidentity]

/-! ### Insertions -/

private theorem create_runs (hvalid : (e.validate r).isEmpty = true) (s : Session) :
    (create r).Runs e s (e.insertion r).statement := by
  refine runs_of_statements (by simpa [records] using hvalid) ?_ s
  rw [Operation.statements, Repository.insertStatement_eq]

/-! ### Updates -/

private theorem updateOnly_runs (hvalid : (e.validate r).isEmpty = true) {columns : List Text} {st : Statement}
    (hplan : Repository.updatePlan e r columns = .ok st) (s : Session) : (updateOnly r columns).Runs e s st := by
  refine runs_of_statements (by simpa [records] using hvalid) ?_ s
  rw [Operation.statements, hplan]
  rfl

private theorem updateOnly_refused (hvalid : (e.validate r).isEmpty = true) {columns : List Text} {err : Error}
    (hplan : Repository.updatePlan e r columns = .error err) (s : Session) : (updateOnly r columns).Refused e s := by
  refine refused_of_statements (by simpa [records] using hvalid) ?_ (failsWith_updatePlan e r columns err hplan) s
  rw [Operation.statements, hplan]
  rfl

/-- An update is refused exactly if it cannot be planned. -/
private theorem updateOnly_refused_iff (hvalid : (e.validate r).isEmpty = true) (columns : List Text) (s : Session) :
    (updateOnly r columns).Refused e s ↔ ¬∃ st, Repository.updatePlan e r columns = .ok st := by
  constructor
  · rintro hrefused ⟨st, hplan⟩
    exact (updateOnly_runs hvalid hplan s).not_refused hrefused
  · intro hnone
    obtain ⟨err, hplan⟩ := exists_error_iff_not_ok.mpr hnone
    exact updateOnly_refused hvalid hplan s

/-- Why an update cannot be planned. -/
private theorem not_exists_updatePlan_iff (hlength : r.length = e.columns.length) (columns : List Text) :
    (¬∃ st, Repository.updatePlan e r columns = .ok st) ↔
      e.key? = none ∨ columns = [] ∨ (∃ name ∈ columns, e.column? name = none) ∨ ¬columns.Nodup ∨
        ∃ name ∈ columns, ∃ c, e.column? name = some c ∧ (c.isKey = true ∨ c.isIdentity = true) := by
  have hkey : (¬∃ k, e.key? = some k) ↔ e.key? = none := by
    cases e.key? <;> simp
  have hcolumns : (¬∀ name ∈ columns, e.isUpdatable name = true) ↔
      (∃ name ∈ columns, e.column? name = none) ∨
        ∃ name ∈ columns, ∃ c, e.column? name = some c ∧ (c.isKey = true ∨ c.isIdentity = true) := by
    simp only [not_forall, exists_prop, Entity.not_isUpdatable_iff, and_or_left, exists_or]
  rw [Repository.exists_updatePlan_iff hlength, not_and_or, not_and_or, not_and_or, hkey, not_ne_iff,
    hcolumns, or_right_comm, or_assoc]

/-- What an update that was planned says. -/
private theorem updateOnly_says (hnames : (e.columns.map Column.name).Nodup) (hlength : r.length = e.columns.length)
    (hvalid : (e.validate r).isEmpty = true) {columns : List Text} {st : Statement}
    (hplan : Repository.updatePlan e r columns = .ok st) (s : Session) :
    ∃ st assigned k v, (updateOnly r columns).Runs e s st ∧
      st.Says (.update (Text.schema? e.schema) e.table assigned [(k.name, v)]) ∧ e.OwnFields r columns assigned ∧
      e.key? = some k ∧ e.value? r k.name = some v := by
  have hruns := updateOnly_runs hvalid hplan s
  obtain ⟨k, v, assigned, hk, hv, hne, hown, rfl⟩ := Repository.eq_of_updatePlan hlength hplan
  exact ⟨_, _, k, v, hruns, Write.says_statement ⟨hown.ne_nil hne, by simp [Entity.named]⟩, hown, hk,
    e.value?_of_mem_fields hnames hv⟩

/-! ### Deletions -/

private theorem delete_says (hnames : (e.columns.map Column.name).Nodup) (hlength : r.length = e.columns.length)
    {k : Column} (hk : e.key? = some k) (s : Session) :
    ∃ st v, (delete r).Runs e s st ∧ st.Says (.delete (Text.schema? e.schema) e.table [(k.name, v)]) ∧
      e.value? r k.name = some v := by
  obtain ⟨v, hkey, hv⟩ := Repository.keyField_eq_ok hlength hk
  have hstatements : (delete r).statements e = .ok [(e.deletion (k, v)).statement] := by
    rw [Operation.statements, hkey, ← Repository.deleteStatement_eq]
    rfl
  exact ⟨_, v, runs_of_statements (by simp [records]) hstatements s,
    Write.says_statement (by simp [Entity.deletion, Write.IsProper, Entity.named]),
    e.value?_of_mem_fields hnames hv⟩

/-! ### All of them -/

/-- Records are written with their own values.  An insertion gives every column that the database does not fill the
value of the record; an update is refused exactly if the entity has no key, no column is named, or one of the named
columns is unknown, named twice, part of the key or filled by the database, and otherwise it sets the named columns in
their order, and no others, in the row with the key of the record; an update of all columns sets those that may be set;
and a deletion compares the key alone. -/
theorem Operation.writes_ownValues (hnames : (e.columns.map Column.name).Nodup)
    (hlength : r.length = e.columns.length) (hvalid : (e.validate r).isEmpty = true) (s : Session) :
    (∃ st fields, (create r).Runs e s st ∧
      st.Says (.insert (Text.schema? e.schema) e.table fields ((e.columns.filter Column.isKey).map Column.name)) ∧
      e.OwnFields r ((e.columns.filter fun c => !c.isIdentity).map Column.name) fields) ∧
    (∀ columns,
      ((updateOnly r columns).Refused e s ↔
        e.key? = none ∨ columns = [] ∨ (∃ name ∈ columns, e.column? name = none) ∨ ¬columns.Nodup ∨
          ∃ name ∈ columns, ∃ c, e.column? name = some c ∧ (c.isKey = true ∨ c.isIdentity = true)) ∧
      (¬(updateOnly r columns).Refused e s → ∃ st assigned k v, (updateOnly r columns).Runs e s st ∧
        st.Says (.update (Text.schema? e.schema) e.table assigned [(k.name, v)]) ∧ e.OwnFields r columns assigned ∧
        e.key? = some k ∧ e.value? r k.name = some v)) ∧
    (update r).run e =
      (updateOnly r ((e.columns.filter fun c => !c.isKey && !c.isIdentity).map Column.name)).run e ∧
    ∀ k, e.key? = some k → ∃ st v, (delete r).Runs e s st ∧
      st.Says (.delete (Text.schema? e.schema) e.table [(k.name, v)]) ∧ e.value? r k.name = some v := by
  refine ⟨?_, fun columns => ⟨?_, fun hrun => ?_⟩, rfl, fun k hk => delete_says hnames hlength hk s⟩
  · exact ⟨_, _, create_runs hvalid s, Write.says_statement trivial, e.ownFields_inserted hnames hlength⟩
  · rw [updateOnly_refused_iff hvalid, not_exists_updatePlan_iff hlength]
  · rw [updateOnly_refused_iff hvalid, not_not] at hrun
    obtain ⟨st, hplan⟩ := hrun
    exact updateOnly_says hnames hlength hvalid hplan s

/-- Columns named in another order than that of the entity, and a key that is filled by the database. -/
theorem Operation.writes_ownValues_reordered :
    let id : Column := { name := "Id".toList, type := ⟨.int32, false⟩, isKey := true, isIdentity := true }
    let name : Column := { name := "Na]me".toList, type := ⟨.string, false⟩ }
    let active : Column := { name := "Active".toList, type := ⟨.bool, false⟩ }
    let e : Entity := ⟨"Account".toList, "dbo".toList, "Accounts".toList, [id, name, active]⟩
    let r : Record := [.int 1, .string "O'Neil".toList, .bool true]
    (∃ st, (updateOnly r [active.name, name.name]).Runs e {} st ∧
      st.Says (.update (some "dbo".toList) "Accounts".toList
        [("Active".toList, .bool true), ("Na]me".toList, .string "O'Neil".toList)] [("Id".toList, .int 1)])) ∧
    (updateOnly r [name.name, id.name]).Refused e {} := by
  intro id name active e r
  have h := writes_ownValues (e := e) (r := r) (by decide) rfl (by decide) {}
  refine ⟨?_, (h.2.1 _).1.mpr (.inr (.inr (.inr (.inr ⟨id.name, by simp, id, rfl, .inl rfl⟩))))⟩
  have hruns : ¬(updateOnly r [active.name, name.name]).Refused e {} := by
    rw [(h.2.1 _).1]
    rintro (hkey | hnil | ⟨n, hn, hnone⟩ | htwice | ⟨n, hn, c, hc, hfixed⟩)
    · exact absurd hkey (by decide)
    · exact absurd hnil (by decide)
    · simp only [List.mem_cons, List.not_mem_nil, or_false] at hn
      rcases hn with rfl | rfl <;> exact absurd hnone (by decide)
    · exact htwice (by decide)
    · simp only [List.mem_cons, List.not_mem_nil, or_false] at hn
      rcases hn with rfl | rfl <;> obtain rfl := Option.some.inj hc <;> exact absurd hfixed (by decide)
  obtain ⟨st, assigned, k, v, hst, hsays, hown, hk, hv⟩ := (h.2.1 _).2 hruns
  obtain rfl := Option.some.inj hk
  obtain rfl := Option.some.inj hv
  have hfields : e.OwnFields r [active.name, name.name]
      [(active.name, .bool true), (name.name, .string "O'Neil".toList)] := (e.ownFields_nil.cons rfl).cons rfl
  exact ⟨st, hst, hfields.unique hown ▸ hsays⟩

end EntityStore
