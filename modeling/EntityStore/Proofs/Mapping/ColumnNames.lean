import EntityStore.Proofs.Entity.ColumnReach
import EntityStore.Proofs.Mapping.RoundTrip

/-!
# The names of the columns

The columns of a declaration have the names that its fields give them, and nothing keeps two fields from giving the
same one: an attribute can repeat a name, and the upper camel case of different names can be the same.  Of the columns
with one name only the first is found, read and set by it, and the instances of a declaration are found again in rows
exactly if its fields give different names (`Declaration.columns_reached_iff`).
-/

namespace EntityStore

namespace Declaration

variable {d : Declaration} {m : Mapping} {meaning : Text → Option FieldType} {fields : List TypedField}

private theorem nodup_typedFields (hnames : (d.fields.map FieldDeclaration.name).Nodup) (hmapping : d.mapping = .ok m)
    (htypes : typedFields? meaning m.fields = some fields) : (fields.map fun p => p.1.field).Nodup := by
  rw [map_field_typedFields hmapping htypes]
  exact hnames.sublist (List.filter_sublist.map _)

/-- Where the fields have different names, hydration finds an instance again exactly if its record is read. -/
private theorem hydrate_iff {e : Entity} (he : e.columns = fields.map TypedField.column)
    (hfields : (fields.map fun p => p.1.field).Nodup) (x new : Instance) (row : Row) (mark : Text) :
    (∃ y, Instance.hydrate fields new row mark = .ok y ∧ y.values fields = x.values fields) ↔
      e.readRecord row mark = .ok (x.values fields) := by
  rw [← Instance.map_values_hydrate he hfields new, map_eq_ok_iff]

/-- Every record is that of an instance. -/
private theorem exists_values (hfields : (fields.map fun p => p.1.field).Nodup) {r : Record}
    (hlength : r.length = fields.length) : ∃ x : Instance, x.values fields = r :=
  ⟨_, Instance.values_assign hfields (fun _ => .null) hlength⟩

/-- The columns of a declaration have the names that its fields give.  A column is found, read and set by its name
exactly if no column before it has this name, and all instances are found again in the rows that show their records
exactly if the names are different. -/
theorem columns_reached_iff (hnames : (d.fields.map FieldDeclaration.name).Nodup) (hmapping : d.mapping = .ok m)
    (htypes : typedFields? meaning m.fields = some fields) :
    ∃ e, m.entity? meaning = some e ∧
      e.columns.map Column.name = (d.fields.filter fun f => !f.isSkipped).map FieldDeclaration.columnName ∧
      (∀ (i : Nat) (c : Column), e.columns[i]? = some c →
        (e.Finds i c ↔ c.name ∉ (e.columns.take i).map Column.name) ∧
        (∀ mark, e.Reads mark i c ↔ c.name ∉ (e.columns.take i).map Column.name) ∧
        ((c.isKey || c.isIdentity) = false → (e.Sets i c ↔ c.name ∉ (e.columns.take i).map Column.name))) ∧
      ∀ mark,
        (∀ x new : Instance, List.Forall₂ (fun c v => c.type.Holds v) e.columns (x.values fields) →
          ∃ y, Instance.hydrate fields new ⟨e.labels mark, x.values fields⟩ mark = .ok y ∧
            y.values fields = x.values fields) ↔
        ((d.fields.filter fun f => !f.isSkipped).map FieldDeclaration.columnName).Nodup := by
  obtain ⟨e, hentity, he⟩ : ∃ e, m.entity? meaning = some e ∧ e.columns = fields.map TypedField.column :=
    ⟨_, Mapping.entity?_of_typedFields htypes, rfl⟩
  have hfields := nodup_typedFields hnames hmapping htypes
  have hcolumns := map_name_columns hmapping htypes
  rw [← he] at hcolumns
  refine ⟨e, hentity, hcolumns, fun i c h => ?_, fun mark => ?_⟩
  · exact ⟨Entity.finds_iff h, Entity.reads_iff h, Entity.sets_iff h⟩
  · rw [← hcolumns, ← e.readRecord_labels_iff mark]
    simp only [hydrate_iff he hfields]
    constructor
    · intro hfound r hholds
      have hlength : r.length = fields.length := by rw [← hholds.length_eq, he, List.length_map]
      obtain ⟨x, rfl⟩ := exists_values hfields hlength
      exact hfound x x hholds
    · intro hfound x _ hholds
      exact hfound _ hholds

/-- A column that has its name from an attribute, and one after it whose own name becomes the same. -/
theorem columns_reached_iff_renamed :
    let d : Declaration := ⟨"Note".toList, .named, [],
      [⟨"id".toList, "i64".toList, [.word "id".toList]⟩,
        ⟨"title".toList, "String".toList, [.text "column".toList "Name".toList]⟩,
        ⟨"size".toList, "usize".toList, [.word "skip".toList]⟩,
        ⟨"name".toList, "String".toList, []⟩]⟩
    let meaning : Text → Option FieldType := fun type =>
      if type = "i64".toList then some ⟨.int64, false⟩
      else if type = "String".toList then some ⟨.string, false⟩
      else none
    let fields : List TypedField :=
      [(⟨"id".toList, "i64".toList, "Id".toList, true, false, none, false, none⟩, ⟨.int64, false⟩),
        (⟨"title".toList, "String".toList, "Name".toList, false, false, none, false, none⟩, ⟨.string, false⟩),
        (⟨"name".toList, "String".toList, "Name".toList, false, false, none, false, none⟩, ⟨.string, false⟩)]
    ∃ e : Entity, d.mapping = .ok ⟨"Note".toList, "Note".toList, none, none, fields.map Prod.fst⟩ ∧
      typedFields? meaning (fields.map Prod.fst) = some fields ∧
      e.columns.map Column.name = ["Id".toList, "Name".toList, "Name".toList] ∧
      e.Reads [] 1 (fields.map TypedField.column)[1] ∧ ¬e.Reads [] 2 (fields.map TypedField.column)[2] := by
  intro d meaning fields
  have hmapping : d.mapping = .ok ⟨"Note".toList, "Note".toList, none, none, fields.map Prod.fst⟩ := rfl
  have htypes : typedFields? meaning (fields.map Prod.fst) = some fields := rfl
  obtain ⟨e, hentity, hcolumns, hreached, -⟩ := columns_reached_iff (by decide) hmapping htypes
  obtain rfl := Option.some.inj hentity
  refine ⟨_, hmapping, htypes, hcolumns, ?_, fun hreads => ?_⟩
  · exact ((hreached 1 _ rfl).2.1 []).mpr (by decide)
  · exact ((hreached 2 _ rfl).2.1 []).mp hreads (by decide)

/-- The names of two fields differ in an underscore, so that both become the same column: the declaration is mapped, and
the first of the two values is read into both fields. -/
theorem not_nodup_columns :
    let d : Declaration := ⟨"Address".toList, .named, [],
      [⟨"line_1".toList, "String".toList, []⟩, ⟨"line1".toList, "String".toList, []⟩]⟩
    let fields : List TypedField :=
      [(⟨"line_1".toList, "String".toList, "Line1".toList, false, false, none, false, none⟩, ⟨.string, false⟩),
        (⟨"line1".toList, "String".toList, "Line1".toList, false, false, none, false, none⟩, ⟨.string, false⟩)]
    d.mapping = .ok ⟨"Address".toList, "Address".toList, none, none, fields.map Prod.fst⟩ ∧
      ¬((fields.map Prod.fst).map MappedField.column).Nodup ∧
      ∃ y, Instance.hydrate fields (fun _ => .null)
          ⟨["Line1".toList, "Line1".toList], [.string ['a'], .string ['b']]⟩ [] = .ok y ∧
        d.fields.map (fun f => y f.name) = [.string ['a'], .string ['a']] := by
  intro d fields
  have hreadable : d.isReadable = true := by decide +kernel
  have hcolumns : d.fields.map (fun f => Text.upperCamel (bareName f.name)) = ["Line1".toList, "Line1".toList] := by
    decide +kernel
  simp only [d, List.map, List.cons.injEq, and_true] at hcolumns
  have hmapping : d.mapping = .ok ⟨d.name, d.name, none, none, d.fields.map fun f => f.mapped {}⟩ := by
    rw [Declaration.mapping, hreadable]
    rfl
  refine ⟨?_, by decide, _, rfl, rfl⟩
  simp only [hmapping, d, fields, List.map, FieldDeclaration.mapped, Option.getD_none, hcolumns]

end Declaration

end EntityStore
