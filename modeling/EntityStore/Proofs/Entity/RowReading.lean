import EntityStore.Entity.Basic
import EntityStore.Proofs.Dialect.Storing
import EntityStore.Proofs.Outcome
import Mathlib.Data.List.Nodup

/-!
# Reading records from rows

A row that shows the values of a record under different labels, in any order and among other cells, is read as this
record (`Entity.readRecord_of_shows`).  Any other row is read too, unless a cell that is not null does not decode; then
the failure names the first column with such a cell (`Entity.readRecord_cases`).
-/

namespace EntityStore

/-! ### One cell -/

namespace Row

/-- A row shows a record under labels: it has one cell with each label and the value in its place, in any order, and
all of its other cells have other labels. -/
def Shows (row : Row) (labels : List Text) (r : Record) : Prop :=
  ∃ others : List (Text × Value),
    (row.columns.zip row.cells).Perm (labels.zip r ++ others) ∧ ∀ cell ∈ others, cell.1 ∉ labels

/-- The cell under a label is not null, and it does not decode. -/
def Fails (row : Row) (label : Text) (type : FieldType) (fault : DecodeFault) : Prop :=
  ∃ v, row.get? label = some v ∧ v ≠ .null ∧ type.decode v = .error fault

/-- A mark in front of every label is dropped on both sides. -/
theorem get?_map_append (mark name : Text) (names : List Text) (cells : List Value) :
    (Row.mk (names.map (mark ++ ·)) cells).get? (mark ++ name) = (Row.mk names cells).get? name := by
  have hidx : (names.map (mark ++ ·)).idxOf? (mark ++ name) = names.idxOf? name := by
    rw [List.idxOf?, List.findIdx?_map, List.idxOf?]
    congr 1
    funext x
    simp
  rw [get?, get?, hidx]

/-- If all cells under a label have the same value, it is found there. -/
private theorem get?_of_mem {columns : List Text} {cells : List Value} {label : Text} {v : Value}
    (hmem : (label, v) ∈ columns.zip cells) (hsame : ∀ w, (label, w) ∈ columns.zip cells → w = v) :
    (Row.mk columns cells).get? label = some v := by
  induction columns generalizing cells with
  | nil => simp at hmem
  | cons c columns ih =>
    cases cells with
    | nil => simp at hmem
    | cons w cells =>
      rw [List.zip_cons_cons] at hmem hsame
      by_cases hlabel : c = label
      · obtain rfl := hsame w (hlabel ▸ List.mem_cons_self)
        simp [get?, List.idxOf?_cons, hlabel]
      · have hrest : (label, v) ∈ columns.zip cells := by
          refine (List.mem_cons.mp hmem).resolve_left fun h => hlabel ?_
          exact (Prod.mk.inj h).1.symm
        rw [← ih hrest fun w hw => hsame w (List.mem_cons_of_mem _ hw), get?, get?, List.idxOf?_cons,
          if_neg (by simpa using hlabel)]
        cases columns.idxOf? label <;> rfl

private theorem eq_of_mem_zip {labels : List Text} {r : Record} (hlabels : labels.Nodup) {label : Text} {v w : Value}
    (hv : (label, v) ∈ labels.zip r) (hw : (label, w) ∈ labels.zip r) : w = v := by
  induction labels generalizing r with
  | nil => simp at hv
  | cons l labels ih =>
    cases r with
    | nil => simp at hv
    | cons u r =>
      obtain ⟨hl, hlabels⟩ := List.nodup_cons.mp hlabels
      rw [List.zip_cons_cons, List.mem_cons, Prod.mk.injEq] at hv hw
      rcases hv with ⟨rfl, rfl⟩ | hv <;> rcases hw with ⟨heq, hw⟩ | hw
      · exact hw
      · exact absurd (List.of_mem_zip hw).1 hl
      · exact absurd (heq ▸ (List.of_mem_zip hv).1) hl
      · exact ih hlabels hv hw

/-- Under different labels every value of a record that a row shows is found. -/
theorem Shows.get? {row : Row} {labels : List Text} {r : Record} (h : row.Shows labels r) (hlabels : labels.Nodup)
    {label : Text} {v : Value} (hv : (label, v) ∈ labels.zip r) : row.get? label = some v := by
  obtain ⟨others, hcells, hothers⟩ := h
  refine get?_of_mem (hcells.mem_iff.mpr (List.mem_append_left _ hv)) fun w hw => ?_
  rcases List.mem_append.mp (hcells.mem_iff.mp hw) with hw | hw
  · exact eq_of_mem_zip hlabels hv hw
  · exact absurd (List.of_mem_zip hv).1 (hothers _ hw)

variable {row : Row} {label : Text} {type : FieldType} {v : Value}

private theorem decodeOrDefault_of_ne_null (hget : row.get? label = some v) (hv : v ≠ .null) :
    row.decodeOrDefault label type = (type.decode v).mapError (.decode label) := by
  unfold decodeOrDefault
  rw [hget]
  split
  · next h => exact nomatch h
  · next h => exact absurd (Option.some.inj h) hv
  · next h => rw [Option.some.inj h]

theorem decodeOrDefault_of_holds (hget : row.get? label = some v) (h : type.Holds v) :
    row.decodeOrDefault label type = .ok v := by
  cases h with
  | absent hnullable =>
    rw [decodeOrDefault, hget]
    simp only [FieldType.default, if_pos hnullable]
  | present h =>
    have hdecode := ScalarType.decode_of_holds h
    have hnull := ScalarType.isNull_of_decode hdecode
    rw [decodeOrDefault_of_ne_null hget (by rintro rfl; exact nomatch hnull), FieldType.decode, hnull, Bool.and_false,
      if_neg (by decide), hdecode]
    rfl

/-- What is under a label is read, unless it is a cell that fails. -/
private theorem decodeOrDefault_cases (row : Row) (label : Text) (type : FieldType) :
    ((∃ v, row.decodeOrDefault label type = .ok v) ∧ ∀ fault, ¬row.Fails label type fault) ∨
      ∃ fault, row.Fails label type fault ∧ row.decodeOrDefault label type = .error (.decode label fault) := by
  by_cases hnull : ∃ v, row.get? label = some v ∧ v ≠ .null
  · obtain ⟨v, hget, hv⟩ := hnull
    have hread : row.decodeOrDefault label type = _ := decodeOrDefault_of_ne_null hget hv
    cases hdecode : type.decode v with
    | error fault => exact .inr ⟨fault, ⟨v, hget, hv, hdecode⟩, by rw [hread, hdecode]; rfl⟩
    | ok w =>
      refine .inl ⟨⟨w, by rw [hread, hdecode]; rfl⟩, ?_⟩
      rintro fault ⟨v', hget', -, hfault⟩
      obtain rfl := Option.some.inj (hget.symm.trans hget')
      exact nomatch hdecode.symm.trans hfault
  · refine .inl ⟨⟨type.default, ?_⟩, fun fault ⟨v, hget, hv, _⟩ => hnull ⟨v, hget, hv⟩⟩
    unfold decodeOrDefault
    cases hget : row.get? label with
    | none => rfl
    | some v =>
      obtain rfl : v = .null := by
        by_contra hv
        exact hnull ⟨v, hget, hv⟩
      rfl

end Row

/-! ### One record -/

namespace Entity

/-- The labels of the columns of an entity, of which all start with the given mark. -/
def labels (e : Entity) (mark : Text) : List Text :=
  e.columns.map fun c => mark ++ c.name

private theorem nodup_labels {e : Entity} (h : (e.columns.map Column.name).Nodup) (mark : Text) :
    (e.labels mark).Nodup := by
  have hlabels : e.labels mark = (e.columns.map Column.name).map (mark ++ ·) := by
    rw [labels, List.map_map]
    rfl
  rw [hlabels]
  exact h.map (List.append_right_injective mark)

private theorem mapM_decodeOrDefault {columns : List Column} {r : Record} {row : Row} {mark : Text}
    (htypes : List.Forall₂ (fun c v => c.type.Holds v) columns r)
    (hcells : ∀ (c : Column) (v : Value), (c, v) ∈ columns.zip r → row.get? (mark ++ c.name) = some v) :
    (columns.mapM fun c => row.decodeOrDefault (mark ++ c.name) c.type) = .ok r := by
  induction htypes with
  | nil => rfl
  | @cons c v columns r hv _ ih =>
    have hfirst := Row.decodeOrDefault_of_holds (hcells c v List.mem_cons_self) hv
    have hrest := ih fun c' v' h => hcells c' v' (List.mem_cons_of_mem _ h)
    exact mapM_cons_eq_ok_iff.mpr ⟨v, r, hfirst, hrest, rfl⟩

/-- A row that shows a record is read as this record. -/
theorem readRecord_of_shows {e : Entity} {r : Record} {row : Row} {mark : Text}
    (hnames : (e.columns.map Column.name).Nodup) (htypes : List.Forall₂ (fun c v => c.type.Holds v) e.columns r)
    (hrow : row.Shows (e.labels mark) r) : e.readRecord row mark = .ok r := by
  refine mapM_decodeOrDefault htypes fun c v hv => ?_
  have hlabel : (mark ++ c.name, v) ∈ (e.labels mark).zip r := by
    rw [labels, List.zip_map_left]
    exact List.mem_map_of_mem hv
  exact hrow.get? (nodup_labels hnames mark) hlabel

end Entity

/-! ### The first cell that fails -/

/-- A column is the first one under which a row has a cell that fails, where every label starts with the mark. -/
def Row.FirstFails (row : Row) (mark : Text) (columns : List Column) (c : Column) (fault : DecodeFault) : Prop :=
  ∃ before after, columns = before ++ c :: after ∧ row.Fails (mark ++ c.name) c.type fault ∧
    ∀ b ∈ before, ∀ other, ¬row.Fails (mark ++ b.name) b.type other

private theorem mapM_decodeOrDefault_cases (row : Row) (mark : Text) (columns : List Column) :
    ((∃ r, (columns.mapM fun c => row.decodeOrDefault (mark ++ c.name) c.type) = .ok r) ∧
        ∀ c ∈ columns, ∀ fault, ¬row.Fails (mark ++ c.name) c.type fault) ∨
      ∃ c fault, row.FirstFails mark columns c fault ∧
        (columns.mapM fun c => row.decodeOrDefault (mark ++ c.name) c.type) =
          .error (.decode (mark ++ c.name) fault) := by
  induction columns with
  | nil => exact .inl ⟨⟨[], rfl⟩, by simp⟩
  | cons d columns ih =>
    rw [List.mapM_cons]
    rcases row.decodeOrDefault_cases (mark ++ d.name) d.type with ⟨⟨v, hv⟩, hreads⟩ | ⟨fault, hfails, herror⟩
    · rw [hv]
      rcases ih with ⟨⟨r, hr⟩, hrest⟩ | ⟨c, fault, ⟨before, after, rfl, hfails, hbefore⟩, herror⟩
      · rw [hr]
        exact .inl ⟨⟨v :: r, rfl⟩, List.forall_mem_cons.mpr ⟨hreads, hrest⟩⟩
      · rw [herror]
        exact .inr ⟨c, fault, ⟨d :: before, after, rfl, hfails, List.forall_mem_cons.mpr ⟨hreads, hbefore⟩⟩, rfl⟩
    · rw [herror]
      exact .inr ⟨d, fault, ⟨[], columns, rfl, hfails, by simp⟩, rfl⟩

/-- A row is read as some record if no cell fails, and otherwise the failure names the first column with one that
does. -/
theorem Entity.readRecord_cases (e : Entity) (row : Row) (mark : Text) :
    ((∃ r, e.readRecord row mark = .ok r) ∧ ∀ c ∈ e.columns, ∀ fault, ¬row.Fails (mark ++ c.name) c.type fault) ∨
      ∃ c fault, row.FirstFails mark e.columns c fault ∧
        e.readRecord row mark = .error (.decode (mark ++ c.name) fault) :=
  mapM_decodeOrDefault_cases row mark e.columns

end EntityStore
