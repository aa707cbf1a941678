import EntityStore.Proofs.Access.WritePlan
import EntityStore.Proofs.Entity.RowReading

/-!
# Columns that are reached by their names

Columns are searched for by name, read from rows by name and set by name, and each time the first of them counts.  So a
column is reached exactly if none before it has its name (`Entity.finds_iff`, `Entity.reads_iff`, `Entity.sets_iff`):
otherwise there are records for which another column's value comes out.  Every record is found again in the row that
shows it exactly if the columns have different names (`Entity.readRecord_labels_iff`).
-/

namespace EntityStore

/-! ### Every type has several values -/

private theorem ScalarType.holds_default (type : ScalarType) : type.Holds type.default := by
  cases type with
  | byte | int16 | uint16 | int32 | uint32 | int64 | uint64 => exact .integer (i := 0) rfl (by decide) (by decide)
  | _ => constructor

private theorem ScalarType.default_ne_null (type : ScalarType) : type.default ≠ .null := by
  cases type <;> simp [default]

private theorem ScalarType.exists_holds_ne_default (type : ScalarType) : ∃ v, type.Holds v ∧ v ≠ type.default := by
  cases type with
  | byte | int16 | uint16 | int32 | uint32 | int64 | uint64 =>
    exact ⟨_, .integer (i := 1) rfl (by decide) (by decide), by simp [default, ofInteger]⟩
  | bool => exact ⟨_, .bool true, by simp [default]⟩
  | decimal => exact ⟨_, .decimal (Decimal.ofInt64 1), fun h => absurd (Value.decimal.inj h) (by decide)⟩
  | double => exact ⟨_, .double ⟨1⟩, fun h => absurd (Value.double.inj h) (by decide)⟩
  | string => exact ⟨_, .string ['a'], by simp [default]⟩
  | char => exact ⟨_, .char 'a', by simp [default]⟩
  | dateTime =>
    exact ⟨_, .dateTime ⟨⟨1970, 1, 2, by decide, by decide, by decide, by decide⟩, .midnight⟩,
      fun h => absurd (Value.dateTime.inj h) (by decide)⟩
  | offsetDateTime =>
    exact ⟨_, .offsetDateTime ⟨.epoch, 60, by decide, by decide⟩,
      fun h => absurd (Value.offsetDateTime.inj h) (by decide)⟩
  | guid => exact ⟨_, .guid ⟨List.replicate 32 1, by simp⟩, fun h => absurd (Value.guid.inj h) (by decide)⟩
  | timeSpan => exact ⟨_, .timeSpan ⟨1, by decide⟩, fun h => absurd (Value.timeSpan.inj h) (by decide)⟩
  | xml => exact ⟨_, .xml ['a'], by simp [default]⟩
  | bytes => exact ⟨_, .bytes [0], by simp [default]⟩

theorem FieldType.holds_default (type : FieldType) : type.Holds type.default := by
  unfold FieldType.default
  split
  · next hnullable => exact .absent hnullable
  · exact .present type.scalar.holds_default

/-- A field can hold something else than its default. -/
theorem FieldType.exists_holds_ne_default (type : FieldType) : ∃ v, type.Holds v ∧ v ≠ type.default := by
  unfold FieldType.default
  split
  · exact ⟨_, .present type.scalar.holds_default, type.scalar.default_ne_null⟩
  · obtain ⟨v, hv, hne⟩ := type.scalar.exists_holds_ne_default
    exact ⟨v, .present hv, hne⟩

/-! ### Searching for a name -/

namespace Entity

variable {e : Entity} {i : Nat} {c : Column}

/-- The column that is found by the name of a column is this one, and it is found in its own place. -/
def Finds (e : Entity) (i : Nat) (c : Column) : Prop :=
  e.column? c.name = some c ∧ (e.columns.findIdx? fun d => d.name == c.name) = some i

/-- In every row that has the columns of the entity in order, the column is read with the value of its own cell. -/
def Reads (e : Entity) (mark : Text) (i : Nat) (c : Column) : Prop :=
  ∀ (r : Record) (v : Value), List.Forall₂ (fun c v => c.type.Holds v) e.columns r → r[i]? = some v →
    (Row.mk (e.labels mark) r).decodeOrDefault (mark ++ c.name) c.type = .ok v

/-- An update of the column by its name sets it to the value that the record has in it. -/
def Sets (e : Entity) (i : Nat) (c : Column) : Prop :=
  ∀ (r : Record) (v : Value), r.length = e.columns.length → r[i]? = some v →
    Repository.updatedFields e r [] [c.name] = .ok [(c, v)]

/-- The search for the name of a column ends there or before, where a column before it has the name. -/
private theorem exists_findIdx? (h : e.columns[i]? = some c) :
    ∃ j, (e.columns.findIdx? fun d => d.name == c.name) = some j ∧ j < e.columns.length ∧
      (j = i ↔ c.name ∉ (e.columns.take i).map Column.name) := by
  obtain ⟨hi, hc⟩ := List.getElem?_eq_some_iff.mp h
  have hsome : (e.columns.findIdx? fun d => d.name == c.name).isSome = true := by
    rw [List.findIdx?_isSome]
    exact List.any_eq_true.mpr ⟨c, List.mem_of_getElem? h, by simp⟩
  obtain ⟨j, hj⟩ := Option.isSome_iff_exists.mp hsome
  obtain ⟨hlt, hname, hearlier⟩ := List.findIdx?_eq_some_iff_getElem.mp hj
  refine ⟨j, hj, hlt, ?_⟩
  constructor
  · rintro rfl hmem
    obtain ⟨d, hd, heq⟩ := List.mem_map.mp hmem
    obtain ⟨k, hk, rfl⟩ := List.mem_take_iff_getElem.mp hd
    exact hearlier k (by omega) (by simpa using heq)
  · intro hnot
    rcases Nat.lt_trichotomy j i with hji | rfl | hij
    · refine absurd (List.mem_map.mpr ⟨e.columns[j], ?_, by simpa using hname⟩) hnot
      exact List.mem_take_iff_getElem.mpr ⟨j, by omega, rfl⟩
    · rfl
    · exact absurd (by simp [hc]) (hearlier i hij)

theorem finds_iff (h : e.columns[i]? = some c) : e.Finds i c ↔ c.name ∉ (e.columns.take i).map Column.name := by
  obtain ⟨j, hj, -, hfirst⟩ := exists_findIdx? h
  rw [← hfirst]
  constructor
  · rintro ⟨-, hi⟩
    exact Option.some.inj (hj.symm.trans hi)
  · rintro rfl
    obtain ⟨hlt, -, hearlier⟩ := List.findIdx?_eq_some_iff_getElem.mp hj
    refine ⟨List.find?_eq_some_iff_getElem.mpr ⟨by simp, j, hlt, ?_, fun k hk => ?_⟩, hj⟩
    · exact (List.getElem?_eq_some_iff.mp h).2
    · simpa using hearlier k hk

/-- If another column has the name of a column before it, its value stands for that of the column. -/
private theorem exists_value?_eq (h : e.columns[i]? = some c)
    (hshadowed : c.name ∈ (e.columns.take i).map Column.name) :
    ∃ j, j < e.columns.length ∧ j ≠ i ∧ ∀ r : Record, e.value? r c.name = r[j]? := by
  obtain ⟨j, hj, hlt, hfirst⟩ := exists_findIdx? h
  refine ⟨j, hlt, fun hji => absurd hshadowed (hfirst.mp hji), fun r => ?_⟩
  rw [value?, hj]
  rfl

private theorem value?_eq_of_finds (h : e.Finds i c) (r : Record) : e.value? r c.name = r[i]? := by
  rw [value?, h.2]
  rfl

/-! ### Reading -/

/-- In a row with the labels of the columns, what is under a label is what a record has under the name. -/
private theorem get?_labels (e : Entity) (mark name : Text) (r : Record) :
    (Row.mk (e.labels mark) r).get? (mark ++ name) = e.value? r name := by
  have hlabels : e.labels mark = (e.columns.map Column.name).map (mark ++ ·) := by
    rw [labels, List.map_map]
    rfl
  rw [hlabels, Row.get?_map_append, Row.get?, List.idxOf?, List.findIdx?_map]
  rfl

/-- The record of which nothing is known, but for one column. -/
private theorem forall₂_set_defaultRecord (h : e.columns[i]? = some c) {v : Value} (hv : c.type.Holds v) :
    List.Forall₂ (fun c v => c.type.Holds v) e.columns (e.defaultRecord.set i v) := by
  refine List.forall₂_iff_get.mpr ⟨by simp [defaultRecord], fun k hk hk' => ?_⟩
  obtain ⟨hi, rfl⟩ := List.getElem?_eq_some_iff.mp h
  rw [List.get_eq_getElem, List.get_eq_getElem, List.getElem_set]
  split
  · next heq =>
    subst heq
    exact hv
  · simpa [defaultRecord] using FieldType.holds_default _

private theorem getElem?_set_defaultRecord (h : e.columns[i]? = some c) (v : Value) :
    (e.defaultRecord.set i v)[i]? = some v :=
  List.getElem?_set_self (by simpa [defaultRecord] using (List.getElem?_eq_some_iff.mp h).1)

theorem reads_iff (h : e.columns[i]? = some c) (mark : Text) :
    e.Reads mark i c ↔ c.name ∉ (e.columns.take i).map Column.name := by
  constructor
  · intro hreads hshadowed
    obtain ⟨j, -, hne, hvalue⟩ := exists_value?_eq h hshadowed
    obtain ⟨v, hv, hother⟩ := c.type.exists_holds_ne_default
    have hread (w : Value) (hw : c.type.Holds w) :=
      hreads _ w (forall₂_set_defaultRecord h hw) (getElem?_set_defaultRecord h w)
    -- two records that differ in the column alone show the same value under its label
    have hget (w : Value) : (Row.mk (e.labels mark) (e.defaultRecord.set i w)).get? (mark ++ c.name) =
        e.defaultRecord[j]? := by
      rw [get?_labels, hvalue, List.getElem?_set_ne (Ne.symm hne)]
    have hdefault := hread _ c.type.holds_default
    rw [Row.decodeOrDefault, hget, ← hget v, ← Row.decodeOrDefault, hread v hv] at hdefault
    exact hother (Except.ok.inj hdefault)
  · intro hfirst r v hholds hv
    obtain ⟨hi, rfl⟩ := List.getElem?_eq_some_iff.mp h
    obtain ⟨hr, rfl⟩ := List.getElem?_eq_some_iff.mp hv
    refine Row.decodeOrDefault_of_holds ?_ (hholds.get hi hr)
    rw [get?_labels, value?_eq_of_finds ((finds_iff h).mpr hfirst), hv]

/-- A record is found again in the row that shows it, whatever its values are, exactly if no two columns have one
name. -/
theorem readRecord_labels_iff (e : Entity) (mark : Text) :
    (∀ r : Record, List.Forall₂ (fun c v => c.type.Holds v) e.columns r →
        e.readRecord ⟨e.labels mark, r⟩ mark = .ok r) ↔ (e.columns.map Column.name).Nodup := by
  constructor
  · intro hfound
    refine List.pairwise_iff_getElem.mpr fun i j hi hj hij heq => ?_
    have hj' : j < e.columns.length := by simpa using hj
    have hreads : e.Reads mark j e.columns[j] := by
      intro r v hholds hv
      obtain ⟨w, hw, hread⟩ := (mapM_eq_ok_iff.mp (hfound r hholds)).2 j _ (List.getElem?_eq_getElem hj')
      rw [hread, Option.some.inj (hw.symm.trans hv)]
    refine (reads_iff (List.getElem?_eq_getElem hj') mark).mp hreads ?_
    rw [List.map_take, List.mem_take_iff_getElem]
    exact ⟨i, by omega, by simpa using heq⟩
  · intro hnames r hholds
    exact readRecord_of_shows hnames hholds ⟨[], by simp, by simp⟩

/-! ### Setting -/

theorem sets_iff (h : e.columns[i]? = some c) (hfree : (c.isKey || c.isIdentity) = false) :
    e.Sets i c ↔ c.name ∉ (e.columns.take i).map Column.name := by
  obtain ⟨hi, hc⟩ := List.getElem?_eq_some_iff.mp h
  constructor
  · intro hsets hshadowed
    obtain ⟨j, hj, hne, hvalue⟩ := exists_value?_eq h hshadowed
    have hlength : ((List.replicate e.columns.length Value.null).set i (.bool true)).length = e.columns.length := by
      simp
    have hown := Repository.ownFields_of_updatedFields hlength
      (hsets _ (.bool true) hlength (List.getElem?_set_self (by simpa using hi)))
    have hset := hown.own c.name (.bool true) (by simp [named])
    rw [hvalue, List.getElem?_set_ne (Ne.symm hne), List.getElem?_replicate_of_lt hj] at hset
    simp at hset
  · intro hfirst r v hlength hv
    have hfound := (finds_iff h).mpr hfirst
    rcases e.find?_fields_cases hlength c.name with ⟨-, hnone⟩ | ⟨d, w, hfield, hcolumn, -, hvalue⟩
    · simp [hfound.1] at hnone
    obtain rfl := Option.some.inj (hcolumn.symm.trans hfound.1)
    rw [value?_eq_of_finds hfound, hv] at hvalue
    obtain rfl := Option.some.inj hvalue
    have hrest : Repository.updatedFields e r [d.name] [] = .ok [] := rfl
    rw [Repository.updatedFields_cons, hfield]
    simp [hfree, hrest, Except.map]

end Entity

end EntityStore
