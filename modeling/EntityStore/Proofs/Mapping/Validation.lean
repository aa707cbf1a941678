import EntityStore.Proofs.Access.Rejection
import EntityStore.Proofs.Mapping.Columns

/-!
# The rules of the fields are enforced

A value breaks a rule of its field if it is missing although it is required, or if it is a text with more characters
than allowed (`FieldDeclaration.Breaks`).  The check of a record adds the errors of one field after the other
(`Entity.validate_eq`), so it finds one error for each rule that is broken and no other, in the order of the fields;
and a record is refused before it is written with these errors if there are any (`Declaration.rules_enforced`).
-/

namespace EntityStore

/-! ### The rules of one field -/

/-- A value that is a text. -/
inductive Value.IsText : Value → Text → Prop where
  | string (t : Text) : IsText (.string t) t
  | xml (t : Text) : IsText (.xml t) t
  | char (c : Char) : IsText (.char c) [c]

private theorem Value.textLength?_eq_some_iff {v : Value} {n : Nat} :
    v.textLength? = some n ↔ ∃ t, v.IsText t ∧ t.length = n := by
  constructor
  · intro h
    cases v with
    | string t => exact ⟨t, .string t, Option.some.inj h⟩
    | xml t => exact ⟨t, .xml t, Option.some.inj h⟩
    | char c => exact ⟨[c], .char c, Option.some.inj h⟩
    | _ => exact nomatch h
  · rintro ⟨t, htext, rfl⟩
    cases htext <;> rfl

/-- A value breaks a rule of its field, with the error that says so under the name of the column. -/
inductive FieldDeclaration.Breaks (f : FieldDeclaration) : Value → FieldError → Prop where
  | missing (hrequired : f.isRequired = true) : Breaks f .null (.missing f.columnName)
  | tooLong {v : Value} {t : Text} {limit : Nat} (hlimit : f.maxLength? = some limit) (htext : v.IsText t)
    (hlong : limit < t.length) : Breaks f v (.tooLong f.columnName limit)

namespace Entity

/-- What the rule on missing values finds wrong with a value. -/
private def missing (c : Column) (v : Value) : FieldErrors :=
  if c.isRequired && v.isNull then [.missing c.name] else []

/-- What the rule on the length finds wrong with a value. -/
private def tooLong (c : Column) (v : Value) : FieldErrors :=
  match c.maxLength?, v.textLength? with
  | some limit, some length => if limit < length then [.tooLong c.name limit] else []
  | _, _ => []

private theorem checkField_eq (errors : FieldErrors) (c : Column) (v : Value) :
    checkField errors (c, v) = errors ++ (missing c v ++ tooLong c v) := by
  have hmissing : (if c.isRequired then errors.addMissing c.name v else errors) = errors ++ missing c v := by
    unfold missing FieldErrors.addMissing
    cases c.isRequired <;> cases v.isNull <;> simp
  unfold checkField tooLong
  dsimp only
  rw [hmissing, ← List.append_assoc]
  cases c.maxLength? with
  | none => simp
  | some limit =>
    unfold FieldErrors.addTooLong
    dsimp only
    cases v.textLength? with
    | none => simp
    | some length => by_cases hlong : limit < length <;> simp [hlong]

/-- The check of a record finds the errors of one field after the other. -/
theorem validate_eq (e : Entity) (r : Record) :
    e.validate r = ((e.fields r).map fun field => checkField [] field).flatten := by
  have hfold (fields : List (Column × Value)) (errors : FieldErrors) :
      fields.foldl checkField errors = errors ++ (fields.map fun field => checkField [] field).flatten := by
    induction fields generalizing errors with
    | nil => simp
    | cons field fields ih =>
      obtain ⟨c, v⟩ := field
      rw [List.foldl_cons, ih, List.map_cons, List.flatten_cons, checkField_eq errors, checkField_eq [],
        List.nil_append, List.append_assoc]
  exact hfold (e.fields r) []

end Entity

namespace FieldDeclaration.Becomes

variable {meaning : Text → Option FieldType} {f : FieldDeclaration} {c : Column}

private theorem mem_missing_iff (h : f.Becomes meaning c) (v : Value) (err : FieldError) :
    err ∈ Entity.missing c v ↔ f.isRequired = true ∧ v = .null ∧ err = .missing f.columnName := by
  unfold Entity.missing
  rw [isRequired_eq h, name_eq h]
  cases v <;> simp [Value.isNull]

private theorem mem_tooLong_iff (h : f.Becomes meaning c) (v : Value) (err : FieldError) :
    err ∈ Entity.tooLong c v ↔
      ∃ t limit, f.maxLength? = some limit ∧ v.IsText t ∧ limit < t.length ∧ err = .tooLong f.columnName limit := by
  unfold Entity.tooLong
  rw [maxLength?_eq h, name_eq h]
  cases hlimit : f.maxLength? with
  | none => simp
  | some limit =>
    cases hlength : v.textLength? with
    | none =>
      refine iff_of_false (by simp) ?_
      rintro ⟨t, -, -, htext, -, -⟩
      rw [Value.textLength?_eq_some_iff.mpr ⟨t, htext, rfl⟩] at hlength
      exact nomatch hlength
    | some length =>
      dsimp only
      constructor
      · intro hmem
        obtain ⟨hlong, herr⟩ := List.mem_ite_nil_right.mp hmem
        obtain ⟨t, htext, rfl⟩ := Value.textLength?_eq_some_iff.mp hlength
        exact ⟨t, limit, rfl, htext, hlong, List.mem_singleton.mp herr⟩
      · rintro ⟨t, limit', hlimit', htext, hlong, rfl⟩
        obtain rfl := Option.some.inj hlimit'
        rw [Value.textLength?_eq_some_iff.mpr ⟨t, htext, rfl⟩] at hlength
        obtain rfl := Option.some.inj hlength
        simp [hlong]

/-- The check of one field finds the errors of its value. -/
theorem mem_checkField_iff (h : f.Becomes meaning c) (v : Value) (err : FieldError) :
    err ∈ Entity.checkField [] (c, v) ↔ f.Breaks v err := by
  rw [Entity.checkField_eq, List.nil_append, List.mem_append, mem_missing_iff h, mem_tooLong_iff h]
  constructor
  · rintro (⟨hrequired, rfl, rfl⟩ | ⟨t, limit, hlimit, htext, hlong, rfl⟩)
    · exact .missing hrequired
    · exact .tooLong hlimit htext hlong
  · rintro (hrequired | ⟨hlimit, htext, hlong⟩)
    · exact .inl ⟨hrequired, rfl, rfl⟩
    · exact .inr ⟨_, _, hlimit, htext, hlong, rfl⟩

end FieldDeclaration.Becomes

private theorem Entity.nodup_checkField (c : Column) (v : Value) : (checkField [] (c, v)).Nodup := by
  rw [checkField_eq, List.nil_append]
  unfold missing tooLong
  -- either part has one error at most, and the two speak of different rules
  split <;> split <;> try split
  all_goals simp [FieldError.missing, FieldError.tooLong]

/-! ### The errors of a record -/

/-- The errors are those of the rules of a field that the value breaks, one for each. -/
def FieldDeclaration.BreaksExactly (f : FieldDeclaration) (v : Value) (errors : FieldErrors) : Prop :=
  errors.Nodup ∧ ∀ err, err ∈ errors ↔ f.Breaks v err

variable {meaning : Text → Option FieldType}

private theorem breaksExactly_checkField {fs : List FieldDeclaration} {columns : List Column}
    (h : List.Forall₂ (FieldDeclaration.Becomes meaning) fs columns) (x : Instance) :
    List.Forall₂ (fun f errors => f.BreaksExactly (x f.name) errors) fs
      ((columns.zip (fs.map fun f => x f.name)).map fun field => Entity.checkField [] field) := by
  induction h with
  | nil => exact .nil
  | cons hfirst _ ih =>
    exact .cons ⟨Entity.nodup_checkField _ _, FieldDeclaration.Becomes.mem_checkField_iff hfirst _⟩ ih

/-! ### Refusals -/

namespace Operation

variable {α : Type} {e : Entity} {op : Operation α} {s : Session} {r : Record}

/-- An operation is rejected with errors of its record before anything is asked of the session. -/
def RejectedWith (op : Operation α) (e : Entity) (s : Session) (errors : FieldErrors) : Prop :=
  ∃ s', (op.run e).on s = (.error (.invalidEntity e.name errors), s') ∧ s.Untouched s'

/-- What keeps the statements of a record from being written is never a rule of its fields. -/
private theorem failsWith_statements_of_records (hop : op.records = [r]) :
    FailsWith Error.isUnwritable (op.statements e) := by
  cases op with
  | create r => exact failsWith_ok _
  | createAll records => exact failsWith_ok _
  | updateOnly r columns => exact (failsWith_updatePlan e r columns).map _
  | update r => exact (failsWith_updatePlan e r _).map _
  | _ => exact nomatch hop

/-- An operation that used no answer and still ends with errors of a record has found them itself. -/
private theorem Ended.eq_validate {used : List Reply} {x : Except Error α} {errors : FieldErrors}
    (h : op.Ended e used x) (hop : op.records = [r]) (hused : used = [])
    (hx : x = .error (.invalidEntity e.name errors)) : errors = e.validate r ∧ errors ≠ [] := by
  cases h with
  | @invalid r' hr _ =>
    obtain ⟨hmem, hinvalid⟩ := Entity.of_firstInvalid? hr
    rw [hop, List.mem_singleton] at hmem
    subst hmem
    injection hx with hx
    injection hx with _ hx
    subst hx
    exact ⟨rfl, by simpa using hinvalid⟩
  | unwritable _ hstatements _ =>
    obtain rfl := Except.error.inj hx
    exact nomatch failsWith_statements_of_records hop _ hstatements
  | ran _ _ _ _ hran =>
    cases hran with
    | complete _ _ => exact nomatch op.failsWith_result e _ _ hx
    | stopped hlast _ _ => simp [hused] at hlast
    | refused _ _ _ => exact nomatch Except.error.inj hx

theorem rejectedWith_iff (hop : op.records = [r]) (s : Session) (errors : FieldErrors) :
    op.RejectedWith e s errors ↔ errors = e.validate r ∧ errors ≠ [] := by
  constructor
  · rintro ⟨s', hrun, huntouched⟩
    obtain ⟨n, s'', x, hrun', hasked, hended⟩ := op.run_ended e s
    obtain ⟨rfl, rfl⟩ := Prod.mk.inj (hrun.symm.trans hrun')
    have hn : n = 0 := by
      have hconnections := hasked.connections
      rw [huntouched.connections] at hconnections
      omega
    rw [hn] at hended
    exact hended.eq_validate hop rfl rfl
  · rintro ⟨rfl, hinvalid⟩
    exact ⟨_, on_run_of_invalid hop hinvalid s, (s.asked_note _).untouched⟩

end Operation

namespace Declaration

variable {d : Declaration} {m : Mapping} {fields : List TypedField}

/-- The check of an instance finds one error for each rule of a field that its value breaks, in the order of the fields
and nothing else; and every way to write the instance is refused with these errors exactly if there are any, whichever
columns are written. -/
theorem rules_enforced (hmapping : d.mapping = .ok m) (htypes : typedFields? meaning m.fields = some fields) :
    ∃ e, m.entity? meaning = some e ∧ ∀ x : Instance,
      (∃ found : List FieldErrors, e.validate (x.values fields) = found.flatten ∧
        List.Forall₂ (fun f errors => f.BreaksExactly (x f.name) errors)
          (d.fields.filter fun f => !f.isSkipped) found) ∧
      ∀ (s : Session) (errors : FieldErrors),
        ((Operation.create (x.values fields)).RejectedWith e s errors ↔
          errors = e.validate (x.values fields) ∧ errors ≠ []) ∧
        ((Operation.update (x.values fields)).RejectedWith e s errors ↔
          errors = e.validate (x.values fields) ∧ errors ≠ []) ∧
        ∀ columns : List Text, (Operation.updateOnly (x.values fields) columns).RejectedWith e s errors ↔
          errors = e.validate (x.values fields) ∧ errors ≠ [] := by
  obtain ⟨e, hentity, he⟩ : ∃ e, m.entity? meaning = some e ∧ e.columns = fields.map TypedField.column :=
    ⟨_, Mapping.entity?_of_typedFields htypes, rfl⟩
  refine ⟨e, hentity, fun x => ⟨⟨_, e.validate_eq _, ?_⟩, fun s errors => ⟨?_, ?_, fun columns => ?_⟩⟩⟩
  · rw [Entity.fields, he, values_eq hmapping htypes]
    exact breaksExactly_checkField (forall₂_becomes hmapping htypes) x
  · exact Operation.rejectedWith_iff rfl s errors
  · exact Operation.rejectedWith_iff rfl s errors
  · exact Operation.rejectedWith_iff rfl s errors

/-- Rules that are spread over several attributes, of which a later one replaces an earlier one: a text of four
characters in more bytes, a missing value, and a field whose rules do not count because it is skipped.  The update names
none of these columns. -/
theorem rules_enforced_updateOnly :
    let d : Declaration := ⟨"Contact".toList, .named, [],
      [⟨"id".toList, "i32".toList, [.word "id".toList]⟩,
        ⟨"code".toList, "Option<String>".toList,
          [.token "max_len".toList "9".toList, .word "required".toList, .token "max_len".toList "3".toList]⟩,
        ⟨"draft".toList, "Option<String>".toList, [.word "required".toList, .word "skip".toList]⟩,
        ⟨"notes".toList, "Option<String>".toList,
          [.text "column".toList "Text".toList, .token "max_len".toList "2".toList, .word "required".toList]⟩,
        ⟨"age".toList, "i32".toList, []⟩]⟩
    let meaning : Text → Option FieldType := fun type =>
      if type = "i32".toList then some ⟨.int32, false⟩
      else if type = "Option<String>".toList then some ⟨.string, true⟩
      else none
    let fields : List TypedField :=
      [(⟨"id".toList, "i32".toList, "Id".toList, true, false, none, false, none⟩, ⟨.int32, false⟩),
        (⟨"code".toList, "Option<String>".toList, "Code".toList, false, false, none, true, some 3⟩, ⟨.string, true⟩),
        (⟨"notes".toList, "Option<String>".toList, "Text".toList, false, false, none, true, some 2⟩, ⟨.string, true⟩),
        (⟨"age".toList, "i32".toList, "Age".toList, false, false, none, false, none⟩, ⟨.int32, false⟩)]
    let x : Instance := fun field =>
      if field = "id".toList then .int 1
      else if field = "code".toList then .string "äöüß".toList
      else if field = "age".toList then .int 30
      else .null
    ∃ e : Entity, d.mapping = .ok ⟨"Contact".toList, "Contact".toList, none, none, fields.map Prod.fst⟩ ∧
      typedFields? meaning (fields.map Prod.fst) = some fields ∧
      (Operation.updateOnly (x.values fields) ["Age".toList]).RejectedWith e {}
        [.tooLong "Code".toList 3, .missing "Text".toList] := by
  intro d meaning fields x
  have hmapping : d.mapping = .ok ⟨"Contact".toList, "Contact".toList, none, none, fields.map Prod.fst⟩ := rfl
  have htypes : typedFields? meaning (fields.map Prod.fst) = some fields := rfl
  obtain ⟨e, hentity, henforced⟩ := rules_enforced hmapping htypes
  obtain rfl := Option.some.inj hentity
  exact ⟨_, hmapping, htypes, (((henforced x).2 {} _).2.2 ["Age".toList]).mpr ⟨rfl, by decide⟩⟩

end Declaration

end EntityStore
