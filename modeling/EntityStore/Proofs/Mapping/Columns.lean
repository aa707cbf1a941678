import EntityStore.Mapping.Instance
import EntityStore.Proofs.Mapping.Rules
import Mathlib.Data.List.Forall2

/-!
# The columns of a mapping

Where a declaration is mapped, the fields that are not skipped become the columns, each by its own attributes and in
the order of the fields (`Declaration.forall₂_becomes`), and at most one of the columns is the key
(`Declaration.countP_isKey_columns`).
-/

namespace EntityStore

/-! ### The fields that are mapped -/

/-- A field is mapped as its own attributes say. -/
def FieldDeclaration.MappedTo (f : FieldDeclaration) (mapped : MappedField) : Prop :=
  ∃ rules, f.rules = .ok rules ∧ mapped = f.mapped rules

/-- The first of several fields is skipped, or it is mapped and not the second key. -/
private theorem mappedFields_cons {keySeen : Bool} {f : FieldDeclaration} {rest : List FieldDeclaration}
    {mapped : List MappedField} (h : mappedFields keySeen (f :: rest) = .ok mapped) :
    (f.isSkipped = true ∧ mappedFields keySeen rest = .ok mapped) ∨
      (f.isSkipped = false ∧ ∃ first later, f.MappedTo first ∧ (keySeen && first.isKey) = false ∧
        mappedFields (keySeen || first.isKey) rest = .ok later ∧ mapped = first :: later) := by
  rw [mappedFields] at h
  split at h
  · exact nomatch h
  · next rules hrules =>
    have hskipped := FieldDeclaration.isSkipped_rules hrules
    split at h
    · next hskip => exact .inl ⟨hskipped ▸ hskip, h⟩
    · next hskip =>
      split at h
      · exact nomatch h
      · next hkey =>
        obtain ⟨later, hlater, rfl⟩ := map_eq_ok_iff.mp h
        exact .inr ⟨hskipped ▸ Bool.eq_false_iff.mpr hskip, _, later, ⟨rules, hrules, rfl⟩,
          Bool.eq_false_iff.mpr hkey, hlater, rfl⟩

private theorem forall₂_mappedFields {keySeen : Bool} {fs : List FieldDeclaration} {mapped : List MappedField}
    (h : mappedFields keySeen fs = .ok mapped) :
    List.Forall₂ FieldDeclaration.MappedTo (fs.filter fun f => !f.isSkipped) mapped := by
  induction fs generalizing keySeen mapped with
  | nil =>
    obtain rfl := Except.ok.inj h
    exact .nil
  | cons f rest ih =>
    rcases mappedFields_cons h with ⟨hskip, hrest⟩ | ⟨hskip, first, later, hfirst, -, hlater, rfl⟩
    · rw [List.filter_cons_of_neg (by simp [hskip])]
      exact ih hrest
    · rw [List.filter_cons_of_pos (by simp [hskip])]
      exact .cons hfirst (ih hlater)

/-- There is one key among the fields at most, and none if there was one before them. -/
private theorem countP_isKey_mappedFields {keySeen : Bool} {fs : List FieldDeclaration} {mapped : List MappedField}
    (h : mappedFields keySeen fs = .ok mapped) : mapped.countP MappedField.isKey + keySeen.toNat ≤ 1 := by
  induction fs generalizing keySeen mapped with
  | nil =>
    obtain rfl := Except.ok.inj h
    simpa using keySeen.toNat_le
  | cons f rest ih =>
    rcases mappedFields_cons h with ⟨-, hrest⟩ | ⟨-, first, later, -, hkey, hlater, rfl⟩
    · exact ih hrest
    · have hcount := ih hlater
      rw [List.countP_cons]
      cases keySeen <;> cases hfirst : first.isKey <;> simp [hfirst] at hkey hcount ⊢ <;> omega

variable {d : Declaration} {m : Mapping}

private theorem Declaration.mappedFields_mapping (h : d.mapping = .ok m) :
    mappedFields false d.fields = .ok m.fields := by
  unfold Declaration.mapping at h
  split at h
  · exact nomatch h
  · cases hshape : d.shape <;> rw [hshape] at h
    case named =>
      obtain ⟨names, -, h⟩ := bind_eq_ok_iff.mp h
      obtain ⟨fields, hfields, h⟩ := bind_eq_ok_iff.mp h
      obtain rfl := Except.ok.inj h
      exact hfields
    all_goals exact nomatch h

/-- The fields that are not skipped are mapped in order. -/
theorem Declaration.forall₂_mappedTo (h : d.mapping = .ok m) :
    List.Forall₂ FieldDeclaration.MappedTo (d.fields.filter fun f => !f.isSkipped) m.fields :=
  forall₂_mappedFields (mappedFields_mapping h)

private theorem map_field_of_mappedTo {fs : List FieldDeclaration} {mapped : List MappedField}
    (h : List.Forall₂ FieldDeclaration.MappedTo fs mapped) :
    mapped.map MappedField.field = fs.map FieldDeclaration.name := by
  induction h with
  | nil => rfl
  | cons hfirst _ ih =>
    obtain ⟨rules, -, rfl⟩ := hfirst
    exact congrArg (List.cons _) ih

theorem Declaration.map_field_mapping (h : d.mapping = .ok m) :
    m.fields.map MappedField.field = (d.fields.filter fun f => !f.isSkipped).map FieldDeclaration.name :=
  map_field_of_mappedTo (forall₂_mappedTo h)

theorem Declaration.countP_isKey_mapping (h : d.mapping = .ok m) : m.fields.countP MappedField.isKey ≤ 1 :=
  countP_isKey_mappedFields (mappedFields_mapping h)

/-! ### Their types and their columns -/

variable {meaning : Text → Option FieldType} {fields : List TypedField}

/-- A field becomes a column as its own attributes say, of the type that its own type means. -/
def FieldDeclaration.Becomes (meaning : Text → Option FieldType) (f : FieldDeclaration) (c : Column) : Prop :=
  ∃ rules type, f.rules = .ok rules ∧ meaning f.type = some type ∧ c = (f.mapped rules).toColumn type

namespace FieldDeclaration.Becomes

variable {f : FieldDeclaration} {c : Column}

theorem name_eq (h : f.Becomes meaning c) : c.name = f.columnName := by
  obtain ⟨rules, type, hrules, -, rfl⟩ := h
  exact column_mapped hrules

theorem isRequired_eq (h : f.Becomes meaning c) : c.isRequired = f.isRequired := by
  obtain ⟨rules, type, hrules, -, rfl⟩ := h
  exact isRequired_rules hrules

theorem maxLength?_eq (h : f.Becomes meaning c) : c.maxLength? = f.maxLength? := by
  obtain ⟨rules, type, hrules, -, rfl⟩ := h
  exact maxLength?_rules hrules

end FieldDeclaration.Becomes

private theorem typedFields_cons {f : MappedField} {mapped : List MappedField}
    (h : typedFields? meaning (f :: mapped) = some fields) :
    ∃ type rest, meaning f.type = some type ∧ typedFields? meaning mapped = some rest ∧ fields = (f, type) :: rest := by
  unfold typedFields? at h
  rw [List.mapM_cons] at h
  obtain ⟨first, hfirst, h⟩ := Option.bind_eq_some_iff.mp h
  obtain ⟨rest, hrest, h⟩ := Option.bind_eq_some_iff.mp h
  obtain ⟨type, htype, rfl⟩ := Option.map_eq_some_iff.mp hfirst
  exact ⟨type, rest, htype, hrest, (Option.some.inj h).symm⟩

theorem map_fst_typedFields {mapped : List MappedField} (h : typedFields? meaning mapped = some fields) :
    fields.map Prod.fst = mapped := by
  induction mapped generalizing fields with
  | nil =>
    obtain rfl := Option.some.inj h
    rfl
  | cons f mapped ih =>
    obtain ⟨type, rest, -, hrest, rfl⟩ := typedFields_cons h
    rw [List.map_cons, ih hrest]

private theorem mapM_toColumn {mapped : List MappedField} (h : typedFields? meaning mapped = some fields) :
    (mapped.mapM fun f => (meaning f.type).map f.toColumn) = some (fields.map TypedField.column) := by
  induction mapped generalizing fields with
  | nil =>
    obtain rfl := Option.some.inj h
    rfl
  | cons f mapped ih =>
    obtain ⟨type, rest, htype, hrest, rfl⟩ := typedFields_cons h
    rw [List.mapM_cons, ih hrest, htype]
    rfl

/-- The entity of a mapping has the columns of the mapped fields. -/
theorem Mapping.entity?_of_typedFields (h : typedFields? meaning m.fields = some fields) :
    m.entity? meaning =
      some ⟨m.entityName, m.schema?.getD defaultSchema, m.table?.getD m.entityName, fields.map TypedField.column⟩ := by
  unfold entity?
  rw [mapM_toColumn h]
  rfl

private theorem becomes_of_mappedTo {fs : List FieldDeclaration} {mapped : List MappedField}
    (h : List.Forall₂ FieldDeclaration.MappedTo fs mapped)
    (htypes : typedFields? meaning mapped = some fields) :
    List.Forall₂ (FieldDeclaration.Becomes meaning) fs (fields.map TypedField.column) := by
  induction h generalizing fields with
  | nil =>
    obtain rfl := Option.some.inj htypes
    exact .nil
  | cons hfirst _ ih =>
    obtain ⟨type, rest, htype, hrest, rfl⟩ := typedFields_cons htypes
    obtain ⟨rules, hrules, rfl⟩ := hfirst
    exact .cons ⟨rules, type, hrules, htype, rfl⟩ (ih hrest)

/-- The fields that are not skipped become the columns in order. -/
theorem Declaration.forall₂_becomes (h : d.mapping = .ok m) (htypes : typedFields? meaning m.fields = some fields) :
    List.Forall₂ (FieldDeclaration.Becomes meaning) (d.fields.filter fun f => !f.isSkipped)
      (fields.map TypedField.column) :=
  becomes_of_mappedTo (forall₂_mappedTo h) htypes

/-- The columns have the names that the attributes of the fields give. -/
theorem Declaration.map_name_columns (h : d.mapping = .ok m) (htypes : typedFields? meaning m.fields = some fields) :
    (fields.map TypedField.column).map Column.name =
      (d.fields.filter fun f => !f.isSkipped).map FieldDeclaration.columnName := by
  rw [← List.forall₂_eq_eq_eq, List.forall₂_map_left_iff, List.forall₂_map_right_iff]
  exact (forall₂_becomes h htypes).flip.imp fun _ _ => FieldDeclaration.Becomes.name_eq

theorem Declaration.map_field_typedFields (h : d.mapping = .ok m)
    (htypes : typedFields? meaning m.fields = some fields) :
    fields.map (fun p => p.1.field) = (d.fields.filter fun f => !f.isSkipped).map FieldDeclaration.name := by
  rw [← map_field_mapping h, ← map_fst_typedFields htypes, List.map_map]
  rfl

/-- The record of an instance has the values of the fields that are not skipped. -/
theorem Declaration.values_eq (h : d.mapping = .ok m) (htypes : typedFields? meaning m.fields = some fields)
    (x : Instance) : x.values fields = (d.fields.filter fun f => !f.isSkipped).map fun f => x f.name := by
  have hvalues : x.values fields = (fields.map fun p => p.1.field).map x := by
    rw [List.map_map]
    rfl
  rw [hvalues, map_field_typedFields h htypes, List.map_map]
  rfl

/-- One of the columns is the key at most. -/
theorem Declaration.countP_isKey_columns (h : d.mapping = .ok m)
    (htypes : typedFields? meaning m.fields = some fields) : (fields.map TypedField.column).countP Column.isKey ≤ 1 := by
  have hkeys := countP_isKey_mapping h
  rw [← map_fst_typedFields htypes, List.countP_map] at hkeys
  rw [List.countP_map]
  exact hkeys

end EntityStore
