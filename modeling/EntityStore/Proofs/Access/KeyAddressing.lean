import EntityStore.Proofs.Access.BoundPlaces
import Mathlib.Data.List.Nodup

/-!
# The rows that updates and deletions are about

An update or a deletion compares one column of the table with the value of the record, the first that is part of the
key (`Operation.Hands.exists_keyed`).  It is about the rows that agree with the record there, and so about other rows
than that of the record if the key has more columns; and if a place of the statement is no word, it is about no row at
all (`Operation.Hands.comparesKey_iff`, `Operation.Hands.addresses_iff`).
-/

namespace EntityStore

namespace Statement

/-- What a statement means: nothing, unless the places in it are those that values are bound to, in order. -/
def meaning? (st : Statement) : Option Write :=
  if Token.placeholders? st.sql = some (st.bindings.map Binding.name) then st.write? else none

/-- A statement compares every key column with the value of the record. -/
def ComparesKey (st : Statement) (e : Entity) (r : Record) : Prop :=
  ∃ w, st.meaning? = some w ∧
    ∀ c ∈ e.columns, c.isKey = true → ∃ v, e.value? r c.name = some v ∧ (c.name, v) ∈ w.compared

/-- A statement is about a row that has the same values in all columns that are compared. -/
def Addresses (same : Value → Value → Prop) (st : Statement) (e : Entity) (row : Record) : Prop :=
  ∃ w, st.meaning? = some w ∧ ∀ column v, (column, v) ∈ w.compared → ∃ v', e.value? row column = some v' ∧ same v v'

end Statement

namespace Write

/-- A write compares one column, the first of the key, with the value of a record. -/
structure IsKeyed (w : Write) (e : Entity) (r : Record) (k : Column) (v : Value) : Prop where
  key?_eq : e.key? = some k
  own : e.value? r k.name = some v
  compared_eq : w.compared = [(k.name, v)]
  proper : w.IsProper

variable {w w' : Write} {e : Entity} {r : Record} {k : Column} {v : Value}

private theorem meaning?_statement_iff (h : w.IsProper) :
    w.statement.meaning? = some w' ↔ (∀ b ∈ w.statement.bindings, isPlace b.name = true) ∧ w' = w := by
  unfold Statement.meaning?
  split
  · next hfound =>
    rw [write?_statement h, Option.some_inj, eq_comm]
    exact (and_iff_right (w.placeholders?_statement_iff.mp hfound)).symm
  · next hlost => exact iff_of_false (by simp) fun hall => hlost (w.placeholders?_statement_iff.mpr hall.1)

/-- The first key column is compared, so all are if there is only one. -/
theorem IsKeyed.comparesKey_iff (h : w.IsKeyed e r k v) (hnames : (e.columns.map Column.name).Nodup) :
    w.statement.ComparesKey e r ↔
      (∃ k, e.columns.filter Column.isKey = [k]) ∧ ∀ b ∈ w.statement.bindings, isPlace b.name = true := by
  have hk : k ∈ e.columns.filter Column.isKey :=
    List.mem_filter.mpr ⟨List.mem_of_find?_eq_some h.key?_eq, List.find?_some h.key?_eq⟩
  constructor
  · rintro ⟨w', hmeaning, hcompared⟩
    obtain ⟨hplaces, rfl⟩ := (meaning?_statement_iff h.proper).mp hmeaning
    have hall : ∀ c ∈ e.columns.filter Column.isKey, c = k := by
      intro c hc
      obtain ⟨hmem, hkey⟩ := List.mem_filter.mp hc
      obtain ⟨v', -, hfield⟩ := hcompared c hmem hkey
      rw [h.compared_eq, List.mem_singleton] at hfield
      exact List.inj_on_of_nodup_map hnames hmem (List.mem_filter.mp hk).1 (Prod.mk.inj hfield).1
    -- the columns of the key are different from each other, and all of them are the first
    have hnodup : (e.columns.filter Column.isKey).Nodup := (List.Nodup.of_map Column.name hnames).filter _
    have hrepeated := List.eq_replicate_of_mem hall
    rw [hrepeated, List.nodup_replicate] at hnodup
    have hlength := List.length_pos_of_mem hk
    exact ⟨List.length_eq_one_iff.mp (by omega), hplaces⟩
  · rintro ⟨⟨k', hsingle⟩, hplaces⟩
    refine ⟨w, (meaning?_statement_iff h.proper).mpr ⟨hplaces, rfl⟩, fun c hc hkey => ?_⟩
    have hmem : c ∈ e.columns.filter Column.isKey := List.mem_filter.mpr ⟨hc, hkey⟩
    rw [hsingle, List.mem_singleton] at hk hmem
    subst hk hmem
    exact ⟨v, h.own, by simp [h.compared_eq]⟩

theorem IsKeyed.addresses_iff (h : w.IsKeyed e r k v) (same : Value → Value → Prop) (row : Record) :
    w.statement.Addresses same e row ↔
      (∀ b ∈ w.statement.bindings, isPlace b.name = true) ∧ ∃ v', e.value? row k.name = some v' ∧ same v v' := by
  unfold Statement.Addresses
  simp only [meaning?_statement_iff h.proper, and_assoc, exists_and_left, exists_eq_left, h.compared_eq,
    List.mem_singleton, Prod.mk.injEq, and_imp, forall_eq_apply_imp_iff, forall_eq]

end Write

namespace Operation

/-- The record whose row is updated or deleted. -/
def changed? {α : Type} : Operation α → Option Record
  | updateOnly r _ | update r | delete r => some r
  | _ => none

variable {α : Type} {e : Entity} {op : Operation α} {s : Session} {st : Statement} {r : Record}

private theorem exists_keyed_of_updatePlan (hnames : (e.columns.map Column.name).Nodup)
    (hlength : r.length = e.columns.length) {columns : List Text} {statements : List Statement}
    (h : ((Repository.updatePlan e r columns).map fun st => [st]) = .ok statements) (hmem : st ∈ statements) :
    ∃ (w : Write) (k : Column) (v : Value), st = w.statement ∧ w.IsKeyed e r k v := by
  obtain ⟨planned, hplan, rfl⟩ := map_eq_ok_iff.mp h
  obtain rfl := List.mem_singleton.mp hmem
  obtain ⟨k, v, assigned, hk, hv, hne, hown, rfl⟩ := Repository.eq_of_updatePlan hlength hplan
  exact ⟨_, k, v, rfl, hk, e.value?_of_mem_fields hnames hv, rfl, hown.ne_nil hne, by simp [Entity.named]⟩

/-- What is handed over to update or delete the row of a record compares the first key column. -/
theorem Hands.exists_keyed (h : op.Hands e s st) (hop : op.changed? = some r)
    (hnames : (e.columns.map Column.name).Nodup) (hlength : r.length = e.columns.length) :
    ∃ (w : Write) (k : Column) (v : Value), st = w.statement ∧ w.IsKeyed e r k v := by
  obtain ⟨statements, hstatements, hmem⟩ := h.exists_statements
  cases op with
  | updateOnly r columns =>
    obtain rfl := Option.some.inj hop
    exact exists_keyed_of_updatePlan hnames hlength hstatements hmem
  | update r =>
    obtain rfl := Option.some.inj hop
    exact exists_keyed_of_updatePlan hnames hlength hstatements hmem
  | delete r =>
    obtain rfl := Option.some.inj hop
    obtain ⟨⟨k, v⟩, hkey, rfl⟩ := map_eq_ok_iff.mp hstatements
    obtain rfl := List.mem_singleton.mp hmem
    obtain ⟨hk, hv⟩ := Repository.eq_of_keyField hlength hkey
    exact ⟨e.deletion (k, v), k, v, Repository.deleteStatement_eq e (k, v), hk, e.value?_of_mem_fields hnames hv, rfl,
      by simp [Entity.deletion, Write.IsProper, Entity.named]⟩
  | _ => simp [changed?] at hop

theorem Hands.comparesKey_iff (h : op.Hands e s st) (hop : op.changed? = some r)
    (hnames : (e.columns.map Column.name).Nodup) (hlength : r.length = e.columns.length) :
    st.ComparesKey e r ↔
      (∃ k, e.columns.filter Column.isKey = [k]) ∧ ∀ b ∈ st.bindings, isPlace b.name = true := by
  obtain ⟨w, k, v, rfl, hkeyed⟩ := h.exists_keyed hop hnames hlength
  exact hkeyed.comparesKey_iff hnames

theorem Hands.addresses_iff (h : op.Hands e s st) (hop : op.changed? = some r)
    (hnames : (e.columns.map Column.name).Nodup) (hlength : r.length = e.columns.length) :
    ∃ k v, e.key? = some k ∧ e.value? r k.name = some v ∧ ∀ (same : Value → Value → Prop) (row : Record),
      st.Addresses same e row ↔
        (∀ b ∈ st.bindings, isPlace b.name = true) ∧ ∃ v', e.value? row k.name = some v' ∧ same v v' := by
  obtain ⟨w, k, v, rfl, hkeyed⟩ := h.exists_keyed hop hnames hlength
  exact ⟨k, v, hkeyed.key?_eq, hkeyed.own, hkeyed.addresses_iff⟩

/-- What is handed over to update or delete the row of a record compares the whole key exactly if the key has one
column and all places of the statement are words.  It is about the rows that agree with the record in the first key
column. -/
theorem firstKey_addressed (hop : op.changed? = some r) (hnames : (e.columns.map Column.name).Nodup)
    (hlength : r.length = e.columns.length) (h : op.Hands e s st) :
    (st.ComparesKey e r ↔
      (∃ k, e.columns.filter Column.isKey = [k]) ∧ ∀ b ∈ st.bindings, isPlace b.name = true) ∧
    ∃ k v, e.key? = some k ∧ e.value? r k.name = some v ∧ ∀ (same : Value → Value → Prop) (row : Record),
      st.Addresses same e row ↔
        (∀ b ∈ st.bindings, isPlace b.name = true) ∧ ∃ v', e.value? row k.name = some v' ∧ same v v' :=
  ⟨h.comparesKey_iff hop hnames hlength, h.addresses_iff hop hnames hlength⟩

/-- The update of one column, in a row with one key column. -/
theorem firstKey_addressed_update :
    let e : Entity := ⟨['E'], [], ['t'], [{ name := ['a'], type := ⟨.int32, false⟩ },
      { name := "the_key".toList, type := ⟨.string, false⟩, isKey := true }]⟩
    let r : Record := [.int 7, .string "O'Neil".toList]
    ∃ st, (updateOnly r [['a']]).Hands e {} st ∧ st.ComparesKey e r := by
  intro e r
  have hhands : (updateOnly r [['a']]).Hands e {} (Repository.updateStatement e [(e.columns[0], .int 7)]
      (e.columns[1], .string "O'Neil".toList)) :=
    hands_of_statements (by decide) rfl (by decide) (List.mem_singleton_self _)
  exact ⟨_, hhands, (firstKey_addressed rfl (by decide) rfl hhands).1.mpr ⟨⟨e.columns[1], rfl⟩, by decide +kernel⟩⟩

/-- The deletion of a record of a student and a course, which together are the key, is about all courses of the
student; and no key is compared in an update of columns whose names are no words. -/
theorem not_keyAddressed :
    let grade : Entity := ⟨"Grade".toList, [], "Grades".toList,
      [{ name := "Student".toList, type := ⟨.int32, false⟩, isKey := true },
        { name := "Course".toList, type := ⟨.int32, false⟩, isKey := true }]⟩
    let e := Entity.bracketed
    let r : Record := [.string ['y'], .string ['x'], .xml ['a']]
    (∃ st, (delete [.int 1, .int 1]).Hands grade {} st ∧ ¬st.ComparesKey grade [.int 1, .int 1] ∧
      st.Addresses (· = ·) grade [.int 1, .int 2]) ∧
    ∃ st, (updateOnly r ["it's".toList]).Hands e {} st ∧ ¬st.ComparesKey e r := by
  intro grade e r
  constructor
  · have hhands : (delete [.int 1, .int 1]).Hands grade {}
        (Repository.deleteStatement grade (grade.columns[0], .int 1)) :=
      hands_of_statements (by decide) rfl (by decide) (List.mem_singleton_self _)
    refine ⟨_, hhands, fun hcompares => ?_, ?_⟩
    · have hsingle := ((hhands.comparesKey_iff rfl (by decide) rfl).mp hcompares).1
      exact absurd (List.length_eq_one_iff.mpr hsingle) (by decide)
    · obtain ⟨k, v, hk, hv, haddresses⟩ := hhands.addresses_iff rfl (by decide) rfl
      obtain rfl := Option.some.inj hk
      obtain rfl := Option.some.inj hv
      exact (haddresses _ _).mpr ⟨by decide +kernel, _, rfl, rfl⟩
  · have hhands : (updateOnly r ["it's".toList]).Hands e {} (Repository.updateStatement e
        [(e.columns[0], .string ['y'])] (e.columns[1], .string ['x'])) :=
      hands_of_statements (by decide) rfl (by decide) (List.mem_singleton_self _)
    refine ⟨_, hhands, fun hcompares => ?_⟩
    have hplaces := ((hhands.comparesKey_iff rfl (by decide) rfl).mp hcompares).2
    exact absurd hplaces (by decide +kernel)

end Operation

end EntityStore
