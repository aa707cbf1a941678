import EntityStore.Proofs.Entity.RowReading
import EntityStore.Proofs.Mapping.Columns

/-!
# Instances are found again in rows

To hydrate an instance is to read a record from a row and to put its values into the mapped fields
(`Instance.hydrate_eq`).  So an instance is found again, but for the fields that are skipped, in every row that shows
the values of its mapped fields under their columns (`Declaration.mapping_roundTrip`).
-/

namespace EntityStore

variable {d : Declaration} {m : Mapping} {meaning : Text → Option FieldType} {fields : List TypedField}

/-! ### Hydrating and reading -/

namespace Instance

/-- Puts the values of a record into the mapped fields in order. -/
def assign (x : Instance) (fields : List TypedField) (r : Record) : Instance :=
  (fields.zip r).foldl (fun y (p, v) => Function.update y p.1.field v) x

private theorem foldlM_setField (fields : List TypedField) (new : Instance) (row : Row) (mark : Text) :
    fields.foldlM (setField row mark) new =
      ((fields.map TypedField.column).mapM fun c => row.decodeOrDefault (mark ++ c.name) c.type).map
        (assign new fields) := by
  induction fields generalizing new with
  | nil => rfl
  | cons p fields ih =>
    rw [List.foldlM_cons, List.map_cons, List.mapM_cons]
    show (row.decodeOrDefault (mark ++ p.1.column) p.2).map _ >>= _ =
      Except.map _ (row.decodeOrDefault (mark ++ p.1.column) p.2 >>= _)
    cases row.decodeOrDefault (mark ++ p.1.column) p.2 with
    | error err => rfl
    | ok v =>
      show fields.foldlM (setField row mark) (Function.update new p.1.field v) = _
      rw [ih]
      cases (fields.map TypedField.column).mapM fun c => row.decodeOrDefault (mark ++ c.name) c.type <;> rfl

/-- An instance is hydrated with the record that the row is read as. -/
theorem hydrate_eq {e : Entity} (he : e.columns = fields.map TypedField.column) (new : Instance) (row : Row)
    (mark : Text) : hydrate fields new row mark = (e.readRecord row mark).map (assign new fields) := by
  rw [hydrate, foldlM_setField, ← he]
  rfl

private theorem assign_of_notMem {field : Text} (h : field ∉ fields.map fun p => p.1.field) (x : Instance)
    (r : Record) : x.assign fields r field = x field := by
  induction fields generalizing x r with
  | nil => rfl
  | cons p fields ih =>
    cases r with
    | nil => rfl
    | cons v r =>
      rw [List.map_cons, List.mem_cons, not_or] at h
      show assign (Function.update x p.1.field v) fields r field = x field
      rw [ih h.2, Function.update_of_ne h.1]

/-- Fields with different names hold the values that were put into them. -/
theorem values_assign (hnames : (fields.map fun p => p.1.field).Nodup) (x : Instance) {r : Record}
    (hlength : r.length = fields.length) : (x.assign fields r).values fields = r := by
  induction fields generalizing x r with
  | nil => exact (List.length_eq_zero_iff.mp hlength).symm
  | cons p fields ih =>
    cases r with
    | nil => simp at hlength
    | cons v r =>
      obtain ⟨hfirst, hnames⟩ := List.nodup_cons.mp hnames
      have hv : assign (Function.update x p.1.field v) fields r p.1.field = v := by
        rw [assign_of_notMem hfirst, Function.update_self]
      have hrest := ih hnames (Function.update x p.1.field v) (by simpa using hlength)
      exact congrArg₂ List.cons hv hrest

/-- The record of a hydrated instance is the record that the row is read as. -/
theorem map_values_hydrate {e : Entity} (he : e.columns = fields.map TypedField.column)
    (hnames : (fields.map fun p => p.1.field).Nodup) (new : Instance) (row : Row) (mark : Text) :
    (hydrate fields new row mark).map (values fields) = e.readRecord row mark := by
  rw [hydrate_eq he]
  cases hread : e.readRecord row mark with
  | error err => rfl
  | ok r =>
    have hlength : r.length = fields.length := by
      rw [(mapM_eq_ok_iff.mp hread).1, he, List.length_map]
    exact congrArg Except.ok (values_assign hnames new hlength)

/-- An instance that is given the record of another agrees with it on the mapped fields. -/
private theorem assign_values (new x : Instance) (fields : List TypedField) (field : Text) :
    new.assign fields (x.values fields) field =
      if field ∈ fields.map fun p => p.1.field then x field else new field := by
  induction fields generalizing new with
  | nil => simp [assign]
  | cons p fields ih =>
    show assign (Function.update new p.1.field (x p.1.field)) fields (x.values fields) field = _
    rw [ih, List.map_cons]
    by_cases hrest : field ∈ fields.map fun p => p.1.field
    · rw [if_pos hrest, if_pos (List.mem_cons_of_mem _ hrest)]
    · rw [if_neg hrest]
      by_cases hfirst : field = p.1.field
      · rw [hfirst, Function.update_self, if_pos List.mem_cons_self]
      · rw [Function.update_of_ne hfirst, if_neg (by simp only [List.mem_cons, not_or]; exact ⟨hfirst, hrest⟩)]

end Instance

/-! ### The fields of a declaration -/

namespace Declaration

/-- Where the names of the fields differ, a field is skipped if none of the others has its name. -/
private theorem name_mem_iff (hnames : (d.fields.map FieldDeclaration.name).Nodup) {f : FieldDeclaration}
    (hf : f ∈ d.fields) :
    f.name ∈ (d.fields.filter fun f => !f.isSkipped).map FieldDeclaration.name ↔ f.isSkipped = false := by
  constructor
  · intro h
    obtain ⟨g, hg, hname⟩ := List.mem_map.mp h
    obtain ⟨hg, hskip⟩ := List.mem_filter.mp hg
    obtain rfl := List.inj_on_of_nodup_map hnames hg hf hname
    simpa using hskip
  · intro h
    exact List.mem_map_of_mem (List.mem_filter.mpr ⟨hf, by simpa using h⟩)

/-- A declaration is mapped to a column for each field that is not skipped, in order, with one key at most, and the
record of an instance has the values of these fields in the same order.  Hydrating a row that shows this record finds
the instance again, but for the fields that are skipped; a row with a cell that fails is refused by its first one. -/
theorem mapping_roundTrip (hnames : (d.fields.map FieldDeclaration.name).Nodup) (hmapping : d.mapping = .ok m)
    (htypes : typedFields? meaning m.fields = some fields) (hcolumns : (m.fields.map MappedField.column).Nodup) :
    ∃ e, m.entity? meaning = some e ∧
      List.Forall₂ (FieldDeclaration.Becomes meaning) (d.fields.filter fun f => !f.isSkipped) e.columns ∧
      e.columns.countP Column.isKey ≤ 1 ∧
      (∀ x : Instance, x.values fields = (d.fields.filter fun f => !f.isSkipped).map fun f => x f.name) ∧
      (∀ (x new : Instance) (mark : Text) (row : Row),
        List.Forall₂ (fun c v => c.type.Holds v) e.columns (x.values fields) →
        row.Shows (e.labels mark) (x.values fields) →
        ∃ y, Instance.hydrate fields new row mark = .ok y ∧
          ∀ f ∈ d.fields, y f.name = if f.isSkipped then new f.name else x f.name) ∧
      ∀ (new : Instance) (mark : Text) (row : Row),
        (∃ c ∈ e.columns, ∃ fault, row.Fails (mark ++ c.name) c.type fault) →
        ∃ c fault, row.FirstFails mark e.columns c fault ∧
          Instance.hydrate fields new row mark = .error (.decode (mark ++ c.name) fault) := by
  have hmapped := map_fst_typedFields htypes
  have hfieldNames : fields.map (fun p => p.1.field) =
      (d.fields.filter fun f => !f.isSkipped).map FieldDeclaration.name := by
    rw [← map_field_mapping hmapping, ← hmapped, List.map_map]
    rfl
  obtain ⟨e, hentity, he⟩ : ∃ e, m.entity? meaning = some e ∧ e.columns = fields.map TypedField.column :=
    ⟨_, Mapping.entity?_of_typedFields htypes, rfl⟩
  refine ⟨e, hentity, he ▸ forall₂_becomes hmapping htypes, he ▸ countP_isKey_columns hmapping htypes, ?_, ?_, ?_⟩
  · intro x
    have hvalues : x.values fields = (fields.map fun p => p.1.field).map x := by
      rw [List.map_map]
      rfl
    rw [hvalues, hfieldNames, List.map_map]
    rfl
  · intro x new mark row hholds hrow
    have hcolumnNames : (e.columns.map Column.name).Nodup := by
      rw [← hmapped, List.map_map] at hcolumns
      rwa [he, List.map_map]
    refine ⟨new.assign fields (x.values fields), ?_, fun f hf => ?_⟩
    · rw [Instance.hydrate_eq he, Entity.readRecord_of_shows hcolumnNames hholds hrow]
      rfl
    · rw [Instance.assign_values, hfieldNames]
      cases hskip : f.isSkipped with
      | true => rw [if_neg (by simp [name_mem_iff hnames hf, hskip]), if_pos rfl]
      | false => rw [if_pos ((name_mem_iff hnames hf).mpr hskip), if_neg (by decide)]
  · rintro new mark row ⟨c, hc, fault, hfails⟩
    rcases e.readRecord_cases row mark with ⟨-, hreads⟩ | ⟨first, cause, hfirst, herror⟩
    · exact absurd hfails (hreads c hc fault)
    · refine ⟨first, cause, hfirst, ?_⟩
      rw [Instance.hydrate_eq he, herror]
      rfl

/-- A key, a column with a name of its own, a field that may be absent and one that is skipped, in a row that has the
columns in the opposite order after one of another table. -/
theorem mapping_roundTrip_reversed :
    let d : Declaration := ⟨"Note".toList, .named, [],
      [⟨"id".toList, "i64".toList, [.word "id".toList]⟩,
        ⟨"title".toList, "String".toList, [.text "column".toList "Heading".toList]⟩,
        ⟨"body".toList, "Option<Xml>".toList, []⟩,
        ⟨"size".toList, "usize".toList, [.word "skip".toList]⟩]⟩
    let meaning : Text → Option FieldType := fun type =>
      if type = "i64".toList then some ⟨.int64, false⟩
      else if type = "String".toList then some ⟨.string, false⟩
      else if type = "Option<Xml>".toList then some ⟨.xml, true⟩
      else none
    let fields : List TypedField :=
      [(⟨"id".toList, "i64".toList, "Id".toList, true, false, none, false, none⟩, ⟨.int64, false⟩),
        (⟨"title".toList, "String".toList, "Heading".toList, false, false, none, false, none⟩, ⟨.string, false⟩),
        (⟨"body".toList, "Option<Xml>".toList, "Body".toList, false, false, none, false, none⟩, ⟨.xml, true⟩)]
    let x : Instance := fun field =>
      if field = "id".toList then .int 3
      else if field = "title".toList then .string ['a']
      else if field = "size".toList then .int 9
      else .null
    let row : Row := ⟨["Tag__Id".toList, "Note__Body".toList, "Note__Heading".toList, "Note__Id".toList],
      [.string ['b'], .null, .string ['a'], .int 3]⟩
    d.mapping = .ok ⟨"Note".toList, "Note".toList, none, none, fields.map Prod.fst⟩ ∧
      typedFields? meaning (fields.map Prod.fst) = some fields ∧
      x.values fields = [.int 3, .string ['a'], .null] ∧
      ∃ y, Instance.hydrate fields (fun _ => .int 0) row "Note__".toList = .ok y ∧
        d.fields.map (fun f => y f.name) = [.int 3, .string ['a'], .null, .int 0] := by
  intro d meaning fields x row
  have hmapping : d.mapping = .ok ⟨"Note".toList, "Note".toList, none, none, fields.map Prod.fst⟩ := rfl
  have htypes : typedFields? meaning (fields.map Prod.fst) = some fields := rfl
  obtain ⟨e, hentity, -, -, -, hroundTrip, -⟩ := mapping_roundTrip (by decide) hmapping htypes (by decide)
  obtain rfl := Option.some.inj hentity
  have hholds : List.Forall₂ (fun c v => c.type.Holds v) (fields.map TypedField.column) (x.values fields) :=
    .cons (.present (.integer (i := 3) rfl (by decide) (by decide))) (.cons (.present (.string _))
      (.cons (.absent rfl) .nil))
  have hrow : row.Shows ((fields.map TypedField.column).map fun c => "Note__".toList ++ c.name) (x.values fields) := by
    refine ⟨[("Tag__Id".toList, .string ['b'])], ?_, by decide⟩
    exact (List.reverse_perm (row.columns.zip row.cells)).symm
  obtain ⟨y, hy, hfields⟩ := hroundTrip x (fun _ => .int 0) "Note__".toList row hholds hrow
  exact ⟨hmapping, htypes, rfl, y, hy, List.map_congr_left hfields⟩

end Declaration

end EntityStore
