import EntityStore.Access.Writing
import EntityStore.Proofs.Access.Write
import EntityStore.Proofs.Outcome

/-!
# The writes of records

What the statements that are written for a record say.  Columns and values meet in different ways there: they are
filtered together when a record is inserted, looked up by name when columns are updated, and by position for the key.
In every case a column is written with the value that the record has in it (`Entity.OwnFields`), and an update is
planned exactly if all its columns may be set (`Repository.exists_updatePlan_iff`).
-/

namespace EntityStore

namespace Entity

variable {e : Entity} {r : Record}

/-- The value of a record in the column of the given name. -/
def value? (e : Entity) (r : Record) (name : Text) : Option Value :=
  (e.columns.findIdx? fun c => c.name == name).bind fun i => r[i]?

/-- The fields are the named columns in order, each with the value of the record. -/
structure OwnFields (e : Entity) (r : Record) (names : List Text) (fields : WrittenFields) : Prop where
  names_eq : fields.map Prod.fst = names
  own : ∀ name v, (name, v) ∈ fields → e.value? r name = some v

/-- Columns under their names. -/
def named (fields : List (Column × Value)) : WrittenFields :=
  fields.map fun (c, v) => (c.name, v)

private theorem value_cons_of_ne {c : Column} {name : Text} (h : ¬(c.name == name) = true) (columns : List Column)
    (v : Value) (values : List Value) :
    (((c :: columns).findIdx? fun d => d.name == name).bind fun i => (v :: values)[i]?) =
      (columns.findIdx? fun d => d.name == name).bind fun i => values[i]? := by
  rw [List.findIdx?_cons, if_neg h]
  cases columns.findIdx? fun d => d.name == name <;> rfl

private theorem value_of_mem_zip {columns : List Column} {values : List Value}
    (hnames : (columns.map Column.name).Nodup) {c : Column} {v : Value} (h : (c, v) ∈ columns.zip values) :
    ((columns.findIdx? fun d => d.name == c.name).bind fun i => values[i]?) = some v := by
  induction columns generalizing values with
  | nil => simp at h
  | cons d columns ih =>
    cases values with
    | nil => simp at h
    | cons w values =>
      rw [List.map_cons, List.nodup_cons] at hnames
      rw [List.zip_cons_cons, List.mem_cons] at h
      rcases h with h | h
      · obtain ⟨rfl, rfl⟩ := Prod.mk.inj h
        simp [List.findIdx?_cons]
      · -- a column further on has another name than the first
        have hne : d.name ≠ c.name := by
          intro heq
          exact hnames.1 (heq ▸ List.mem_map_of_mem (List.of_mem_zip h).1)
        rw [value_cons_of_ne (by simpa using hne)]
        exact ih hnames.2 h

/-- Of columns with different names each has its own value. -/
theorem value?_of_mem_fields (hnames : (e.columns.map Column.name).Nodup) {c : Column} {v : Value}
    (h : (c, v) ∈ e.fields r) : e.value? r c.name = some v :=
  value_of_mem_zip hnames h

private theorem find?_zip_cases {columns : List Column} {values : List Value} (h : values.length = columns.length)
    (name : Text) :
    ((columns.zip values).find? fun (c, _) => c.name == name) = none ∧ findColumn? columns name = none ∨
      ∃ c v, ((columns.zip values).find? fun (c, _) => c.name == name) = some (c, v) ∧
        findColumn? columns name = some c ∧
        ((columns.findIdx? fun c => c.name == name).bind fun i => values[i]?) = some v := by
  unfold findColumn?
  induction columns generalizing values with
  | nil => exact .inl ⟨rfl, rfl⟩
  | cons c columns ih =>
    cases values with
    | nil => simp at h
    | cons v values =>
      by_cases hname : (c.name == name) = true
      · exact .inr ⟨c, v, by simp [hname], by simp [hname], by simp [List.findIdx?_cons, hname]⟩
      · rw [value_cons_of_ne hname, List.zip_cons_cons, List.find?_cons_of_neg (by simpa using hname),
          List.find?_cons_of_neg (by simpa using hname)]
        exact ih (by simpa using h)

/-- A column is found with its value, or neither is. -/
theorem find?_fields_cases (h : r.length = e.columns.length) (name : Text) :
    ((e.fields r).find? fun (c, _) => c.name == name) = none ∧ e.column? name = none ∨
      ∃ c v, ((e.fields r).find? fun (c, _) => c.name == name) = some (c, v) ∧ e.column? name = some c ∧
        c.name = name ∧ e.value? r name = some v := by
  rcases find?_zip_cases h name with hnone | ⟨c, v, hfield, hcolumn, hvalue⟩
  · exact .inl hnone
  · exact .inr ⟨c, v, hfield, hcolumn, by simpa using List.find?_some hcolumn, hvalue⟩

theorem ownFields_nil : e.OwnFields r [] [] :=
  ⟨rfl, by simp⟩

theorem OwnFields.cons {names : List Text} {fields : WrittenFields} {name : Text} {v : Value}
    (hv : e.value? r name = some v) (h : e.OwnFields r names fields) :
    e.OwnFields r (name :: names) ((name, v) :: fields) := by
  refine ⟨by rw [List.map_cons, h.names_eq], fun other w hmem => ?_⟩
  rcases List.mem_cons.mp hmem with heq | hmem
  · obtain ⟨rfl, rfl⟩ := Prod.mk.inj heq
    exact hv
  · exact h.own other w hmem

/-- A record has one value in every column, so the names decide the fields. -/
theorem OwnFields.unique {names : List Text} {fields fields' : WrittenFields} (h : e.OwnFields r names fields)
    (h' : e.OwnFields r names fields') : fields = fields' := by
  refine List.ext_getElem? fun i => ?_
  have hname : (fields[i]?).map Prod.fst = (fields'[i]?).map Prod.fst := by
    rw [← List.getElem?_map, ← List.getElem?_map, h.names_eq, h'.names_eq]
  cases hfield : fields[i]? with
  | none =>
    rw [hfield, Option.map_none, eq_comm, Option.map_eq_none_iff] at hname
    exact hname.symm
  | some field =>
    rw [hfield, Option.map_some, eq_comm, Option.map_eq_some_iff] at hname
    obtain ⟨⟨_, v⟩, hfield', rfl⟩ := hname
    have hv := h.own _ _ (List.mem_of_getElem? hfield)
    rw [h'.own _ v (List.mem_of_getElem? hfield')] at hv
    rw [hfield', Option.some.inj hv]

theorem OwnFields.ne_nil {names : List Text} {fields : WrittenFields} (h : e.OwnFields r names fields)
    (hne : names ≠ []) : fields ≠ [] := by
  rintro rfl
  exact hne h.names_eq.symm

/-- Whether an update may set the column of the given name. -/
def isUpdatable (e : Entity) (name : Text) : Bool :=
  (e.column? name).any fun c => !(c.isKey || c.isIdentity)

/-! ### The writes -/

/-- The insertion of a record. -/
def insertion (e : Entity) (r : Record) : Write :=
  .insert (Text.schema? e.schema) e.table (named ((e.fields r).filter fun (c, _) => !c.isIdentity))
    ((e.columns.filter Column.isKey).map Column.name)

/-- The update that sets fields in the row with the given key. -/
def updating (e : Entity) (assigned : List (Column × Value)) (key : Column × Value) : Write :=
  .update (Text.schema? e.schema) e.table (named assigned) (named [key])

/-- The deletion of the row with the given key. -/
def deletion (e : Entity) (key : Column × Value) : Write :=
  .delete (Text.schema? e.schema) e.table (named [key])

/-- The columns that are inserted are those that the database does not fill. -/
theorem map_fst_inserted (h : r.length = e.columns.length) :
    (named ((e.fields r).filter fun (c, _) => !c.isIdentity)).map Prod.fst =
      (e.columns.filter fun c => !c.isIdentity).map Column.name := by
  rw [← map_fst_filter_fields h, named, List.map_map, List.map_map]
  rfl

theorem ownFields_inserted (hnames : (e.columns.map Column.name).Nodup) (h : r.length = e.columns.length) :
    e.OwnFields r ((e.columns.filter fun c => !c.isIdentity).map Column.name)
      (named ((e.fields r).filter fun (c, _) => !c.isIdentity)) := by
  refine ⟨map_fst_inserted h, fun name v hmem => ?_⟩
  obtain ⟨⟨c, w⟩, hfield, heq⟩ := List.mem_map.mp hmem
  obtain ⟨rfl, rfl⟩ := Prod.mk.inj heq
  exact value?_of_mem_fields hnames (List.mem_filter.mp hfield).1

end Entity

namespace Repository

open Entity (named)

variable {e : Entity} {r : Record}

private theorem tableText_eq (e : Entity) : e.tableText = Text.bracketColumn (Text.schema? e.schema) e.table :=
  Text.bracketTable_eq e.schema e.table

private theorem bindingsOf_eq (fields : List (Column × Value)) :
    bindingsOf fields = Write.bindings (named fields) := by
  rw [bindingsOf, Write.bindings, named, List.map_map]
  rfl

private theorem output_eq (keys : List Column) :
    (if (keys.map fun c => "[Inserted].".toList ++ Text.bracket c.name).isEmpty = true then []
      else " OUTPUT ".toList ++
        Text.joinWith ", ".toList (keys.map fun c => "[Inserted].".toList ++ Text.bracket c.name)) =
      Write.outputText (keys.map Column.name) := by
  rw [Write.outputText, List.map_map]
  cases keys <;> rfl

theorem insertStatement_eq (e : Entity) (r : Record) : insertStatement e r = (e.insertion r).statement := by
  unfold insertStatement
  dsimp only
  rw [tableText_eq, output_eq, bindingsOf_eq, Write.statement, Entity.insertion]
  generalize (e.fields r).filter _ = fields
  have hnames : (fields.map fun (c, _) => Text.bracket c.name) = (named fields).map fun f => Text.bracket f.1 := by
    rw [named, List.map_map]
    rfl
  have hplaces : (Write.bindings (named fields)).map Binding.name = (named fields).map fun f => '@' :: f.1 := by
    rw [Write.bindings, List.map_map]
    rfl
  have hkind : (if (e.columns.filter Column.isKey).isEmpty = true then StatementKind.execute else .query) =
      Write.kind (.insert (Text.schema? e.schema) e.table (named fields)
        ((e.columns.filter Column.isKey).map Column.name)) := by
    rw [Write.kind]
    cases e.columns.filter Column.isKey <;> rfl
  rw [hnames, hplaces, List.isEmpty_map, hkind]
  rfl

private theorem assignments_eq (separator : Text) (fields : List (Column × Value)) :
    Text.joinWith separator (fields.map fun (c, _) => assignment c) =
      Write.equationsText separator (named fields) := by
  rw [Write.equationsText, named, List.map_map]
  rfl

theorem updateStatement_eq (e : Entity) (assigned : List (Column × Value)) (key : Column × Value) :
    updateStatement e assigned key = (e.updating assigned key).statement := by
  have hbindings : named assigned ++ named [key] = named (assigned ++ [key]) := List.map_append.symm
  rw [updateStatement, tableText_eq, assignments_eq, bindingsOf_eq, ← hbindings]
  rfl

theorem deleteStatement_eq (e : Entity) (key : Column × Value) :
    deleteStatement e key = (e.deletion key).statement := by
  rw [deleteStatement, tableText_eq, bindingsOf_eq]
  rfl

/-! ### The key -/

/-- The key of a record is its value in the first key column. -/
theorem keyField_eq_ok (h : r.length = e.columns.length) {k : Column} (hkey : e.key? = some k) :
    ∃ v, keyField e r = .ok (k, v) ∧ (k, v) ∈ e.fields r := by
  obtain ⟨hk, before, after, hcolumns, hbefore⟩ := List.find?_eq_some_iff_append.mp hkey
  have hindex : e.columns.findIdx? Column.isKey = some before.length := by
    rw [hcolumns, List.findIdx?_append, List.findIdx?_eq_none_iff.mpr fun c hc => by simpa using hbefore c hc]
    simp [List.findIdx?_cons, hk]
  have hcolumn : e.columns[before.length]? = some k := by
    rw [hcolumns]
    simp
  have hlt : before.length < r.length := by
    rw [h, hcolumns]
    simp
  have hvalue : r[before.length]? = some r[before.length] := List.getElem?_eq_getElem hlt
  refine ⟨r[before.length], ?_, ?_⟩
  · rw [keyField, hindex]
    dsimp only
    rw [hcolumn, hvalue]
    rfl
  · refine List.mem_of_getElem? (i := before.length) ?_
    rw [Entity.fields, List.getElem?_zip_eq_some]
    exact ⟨hcolumn, hvalue⟩

theorem keyField_eq_error (hkey : e.key? = none) : keyField e r = .error (.validation (.noKey e.name)) := by
  have hindex : e.columns.findIdx? Column.isKey = none := by
    simpa [List.findIdx?_eq_none_iff] using List.find?_eq_none.mp hkey
  rw [keyField, hindex]

/-- If a record has a key, it is its value in the first key column. -/
theorem eq_of_keyField (h : r.length = e.columns.length) {key : Column × Value} (hkey : keyField e r = .ok key) :
    e.key? = some key.1 ∧ key ∈ e.fields r := by
  cases hk : e.key? with
  | none =>
    rw [keyField_eq_error hk] at hkey
    simp at hkey
  | some k =>
    obtain ⟨v, hown, hmem⟩ := keyField_eq_ok h hk
    obtain rfl := Except.ok.inj (hown.symm.trans hkey)
    exact ⟨rfl, hmem⟩

/-! ### Updates -/

/-- A column that may be set and was not set before is taken with the value of the record; any other ends the plan. -/
private theorem updatedFields_cons_cases (h : r.length = e.columns.length) (used : List Text) (name : Text)
    (rest : List Text) :
    (e.isUpdatable name = true ∧ name ∉ used ∧ ∃ c v, c.name = name ∧ e.value? r name = some v ∧
      updatedFields e r used (name :: rest) = (updatedFields e r (name :: used) rest).map ((c, v) :: ·)) ∨
    (¬(e.isUpdatable name = true ∧ name ∉ used) ∧ ∃ err, updatedFields e r used (name :: rest) = .error err) := by
  unfold Entity.isUpdatable
  rw [updatedFields_cons]
  rcases e.find?_fields_cases h name with ⟨hfield, hcolumn⟩ | ⟨c, v, hfield, hcolumn, hname, hvalue⟩
  · rw [hfield, hcolumn]
    exact .inr ⟨by simp, _, rfl⟩
  · rw [hfield, hcolumn]
    dsimp only
    by_cases hfixed : (c.isKey || c.isIdentity) = true
    · rw [if_pos hfixed]
      exact .inr ⟨fun hall => by simp [-Bool.not_or, hfixed] at hall, _, rfl⟩
    · rw [if_neg hfixed]
      by_cases hused : name ∈ used
      · rw [if_pos hused]
        exact .inr ⟨by simp [hused], _, rfl⟩
      · rw [if_neg hused]
        exact .inl ⟨by simpa using hfixed, hused, c, v, hname, hvalue, rfl⟩

/-- The fields to be set are found exactly if the named columns may be set and none was set before or comes twice. -/
theorem exists_updatedFields_iff (h : r.length = e.columns.length) (used names : List Text) :
    (∃ fields, updatedFields e r used names = .ok fields) ↔
      (∀ name ∈ names, e.isUpdatable name = true ∧ name ∉ used) ∧ names.Nodup := by
  induction names generalizing used with
  | nil => exact iff_of_true ⟨[], rfl⟩ (by simp)
  | cons name rest ih =>
    rw [List.forall_mem_cons, List.nodup_cons]
    rcases updatedFields_cons_cases h used name rest with ⟨hupdatable, hused, c, v, -, -, hcons⟩ | ⟨hnot, err, hcons⟩
    · have hmap : (∃ fields, updatedFields e r used (name :: rest) = .ok fields) ↔
          ∃ fields, updatedFields e r (name :: used) rest = .ok fields := by
        rw [hcons]
        cases updatedFields e r (name :: used) rest <;> simp [Except.map]
      rw [hmap, ih]
      -- that no name comes twice is said with the names that were used
      constructor
      · rintro ⟨hrest, hnodup⟩
        refine ⟨⟨⟨hupdatable, hused⟩, fun other hother => ?_⟩, fun hmem => ?_, hnodup⟩
        · exact ⟨(hrest other hother).1, fun hmem => (hrest other hother).2 (List.mem_cons_of_mem name hmem)⟩
        · exact (hrest name hmem).2 (List.mem_cons_self ..)
      · rintro ⟨⟨-, hrest⟩, hname, hnodup⟩
        refine ⟨fun other hother => ⟨(hrest other hother).1, fun hmem => ?_⟩, hnodup⟩
        rcases List.mem_cons.mp hmem with rfl | hmem
        · exact hname hother
        · exact (hrest other hother).2 hmem
    · rw [hcons]
      exact iff_of_false (by simp) fun hall => hnot hall.1.1

theorem ownFields_of_updatedFields (h : r.length = e.columns.length) {used names : List Text}
    {fields : List (Column × Value)} (hfields : updatedFields e r used names = .ok fields) :
    e.OwnFields r names (named fields) := by
  induction names generalizing used fields with
  | nil =>
    obtain rfl := Except.ok.inj hfields
    exact e.ownFields_nil
  | cons name rest ih =>
    rcases updatedFields_cons_cases h used name rest with ⟨-, -, c, v, hname, hvalue, hcons⟩ | ⟨-, err, hcons⟩
    · rw [hcons] at hfields
      obtain ⟨others, hothers, rfl⟩ := map_eq_ok_iff.mp hfields
      exact hname ▸ (ih hothers).cons (hname ▸ hvalue)
    · rw [hcons] at hfields
      simp at hfields

theorem updatePlan_eq_ok_iff {names : List Text} {st : Statement} :
    updatePlan e r names = .ok st ↔ ∃ key assigned, keyField e r = .ok key ∧ names ≠ [] ∧
      updatedFields e r [] names = .ok assigned ∧ updateStatement e assigned key = st := by
  unfold updatePlan
  rw [bind_eq_ok_iff]
  refine exists_congr fun key => ?_
  cases names with
  | nil => simp [Bind.bind, Except.bind, throw, throwThe, MonadExceptOf.throw]
  | cons name rest =>
    dsimp only [List.isEmpty_cons]
    rw [if_neg (by decide), bind_eq_ok_iff]
    simp [pure, Except.pure]

/-- A record can be updated exactly if it has a key and the named columns, of which there are some, may be set. -/
theorem exists_updatePlan_iff (h : r.length = e.columns.length) (names : List Text) :
    (∃ st, updatePlan e r names = .ok st) ↔
      (∃ k, e.key? = some k) ∧ names ≠ [] ∧ (∀ name ∈ names, e.isUpdatable name = true) ∧ names.Nodup := by
  have hfields := exists_updatedFields_iff h [] names
  simp only [List.not_mem_nil, not_false_eq_true, and_true] at hfields
  rw [← hfields]
  simp only [updatePlan_eq_ok_iff]
  constructor
  · rintro ⟨st, key, assigned, hkey, hne, hassigned, -⟩
    exact ⟨⟨key.1, (eq_of_keyField h hkey).1⟩, hne, assigned, hassigned⟩
  · rintro ⟨⟨k, hk⟩, hne, assigned, hassigned⟩
    obtain ⟨v, hkey, -⟩ := keyField_eq_ok h hk
    exact ⟨_, _, assigned, hkey, hne, hassigned, rfl⟩

/-- What an update of a record says. -/
theorem eq_of_updatePlan (h : r.length = e.columns.length) {names : List Text} {st : Statement}
    (hplan : updatePlan e r names = .ok st) :
    ∃ k v assigned, e.key? = some k ∧ (k, v) ∈ e.fields r ∧ names ≠ [] ∧ e.OwnFields r names (named assigned) ∧
      st = (e.updating assigned (k, v)).statement := by
  obtain ⟨⟨k, v⟩, assigned, hkey, hne, hassigned, rfl⟩ := updatePlan_eq_ok_iff.mp hplan
  obtain ⟨hk, hmem⟩ := eq_of_keyField h hkey
  exact ⟨k, v, assigned, hk, hmem, hne, ownFields_of_updatedFields h hassigned, updateStatement_eq e assigned (k, v)⟩

end Repository

end EntityStore
