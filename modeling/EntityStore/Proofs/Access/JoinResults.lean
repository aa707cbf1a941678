import EntityStore.Proofs.Access.Execution
import EntityStore.Proofs.Access.Failure
import EntityStore.Proofs.Access.JoinChain
import EntityStore.Proofs.Entity.RowReading

/-!
# Every member of a row is read from its own cells

The columns of a join are answered under labels that are put together from the name of an entity and that of a column,
and read by looking for the first column with a label.  As long as no name of an entity contains the separator or ends
with a part of it, a label tells the entity (`name_eq_of_label_eq`), whatever the columns are called.  Members with
different names therefore never find the cells of one another: a row of the join is read as if every member had a row
of its own, with its own cells under the bare names of its columns (`JoinChain.read_ofJoinings`).
-/

namespace EntityStore

/-! ### Labels -/

/-- A name that can be told from what follows it in a label. -/
structure Entity.HasPlainName (e : Entity) : Prop where
  noSeparator : ¬labelSeparator <:+: e.name
  noUnderscore : e.name.getLast? ≠ some '_'

private theorem labelSeparator_eq : labelSeparator = ['_', '_'] := rfl

private theorem eq_nil_of_append_separator {name more t t' : Text}
    (hmore : labelSeparator ++ t = more ++ (labelSeparator ++ t')) (hseparator : ¬labelSeparator <:+: name ++ more)
    (hunderscore : (name ++ more).getLast? ≠ some '_') : more = [] := by
  rw [labelSeparator_eq] at hmore hseparator
  match more with
  | [] => rfl
  | [c] =>
    obtain ⟨rfl, -⟩ := List.cons.inj hmore
    simp at hunderscore
  | c :: d :: more =>
    obtain ⟨rfl, hrest⟩ := List.cons.inj hmore
    obtain ⟨rfl, -⟩ := List.cons.inj hrest
    exact absurd ⟨name, more, by simp⟩ hseparator

/-- A label tells the name of its entity. -/
theorem name_eq_of_label_eq {e e' : Entity} (h : e.HasPlainName) (h' : e'.HasPlainName) {t t' : Text}
    (heq : e.labelMark ++ t = e'.labelMark ++ t') : e.name = e'.name := by
  rw [Entity.labelMark, Entity.labelMark, List.append_assoc, List.append_assoc, List.append_eq_append_iff] at heq
  rcases heq with ⟨more, hname, hrest⟩ | ⟨more, hname, hrest⟩
  · rw [hname, eq_nil_of_append_separator hrest (hname ▸ h'.noSeparator) (hname ▸ h'.noUnderscore), List.append_nil]
  · rw [hname, eq_nil_of_append_separator hrest (hname ▸ h.noSeparator) (hname ▸ h.noUnderscore), List.append_nil]

/-! ### Rows -/

/-- A label that is not among the first ones is found among the others, in the cells that belong to them. -/
private theorem get?_append {label : Text} {before own after : List Text} (hbefore : label ∉ before)
    (hown : label ∈ own) (cells : List Value) :
    (Row.mk (before ++ own ++ after) cells).get? label =
      (Row.mk own ((cells.drop before.length).take own.length)).get? label := by
  have hnone : before.findIdx? (fun x => x == label) = none := by
    rw [List.findIdx?_eq_none_iff]
    rintro x hx
    simpa using fun heq : x = label => hbefore (heq ▸ hx)
  cases hfind : own.idxOf? label with
  | none => exact absurd hown (List.idxOf?_eq_none_iff.mp hfind)
  | some k =>
    have hk : k < own.length := (List.idxOf?_eq_some_iff.mp hfind).1
    have hwhole : (before ++ own ++ after).idxOf? label = some (k + before.length) := by
      rw [List.idxOf?] at hfind ⊢
      rw [List.findIdx?_append, List.findIdx?_append, hnone, hfind]
      rfl
    rw [Row.get?, Row.get?, hwhole, hfind]
    simp [List.getElem?_take, hk, Nat.add_comm]

/-- A failure to decode a column whose label starts with a mark. -/
def Error.marked (mark : Text) : Error → Error
  | .decode column fault => .decode (mark ++ column) fault
  | err => err

private theorem decodeOrDefault_of_get? {row own : Row} {mark name : Text} (h : row.get? (mark ++ name) = own.get? name)
    (type : FieldType) :
    row.decodeOrDefault (mark ++ name) type = (own.decodeOrDefault name type).mapError (.marked mark) := by
  rw [Row.decodeOrDefault, Row.decodeOrDefault, h]
  split
  · rfl
  · rfl
  · next v _ _ => cases type.decode v <;> rfl

private theorem mapM_mapError {α β : Type} {f g : α → Except Error β} {relabel : Error → Error} {as : List α}
    (h : ∀ a ∈ as, f a = (g a).mapError relabel) : as.mapM f = (as.mapM g).mapError relabel := by
  induction as with
  | nil => rfl
  | cons a as ih =>
    rw [List.mapM_cons, List.mapM_cons, h a (List.mem_cons_self ..), ih fun b hb => h b (List.mem_cons_of_mem a hb)]
    cases g a with
    | error err => rfl
    | ok b => cases as.mapM g <;> rfl

namespace JoinChain

/-- The number of cells before those of the member at a position. -/
def cellsBefore (members : List Entity) (i : Nat) : Nat :=
  ((members.take i).flatMap Entity.columns).length

/-- The row that holds the cells of one member alone, under the bare names of its columns. -/
def ownRow (members : List Entity) (i : Nat) (e : Entity) (cells : List Value) : Row :=
  ⟨e.columns.map Column.name, (cells.drop (cellsBefore members i)).take e.columns.length⟩

/-- A row of a join in which every member has the record that is read from its own row. -/
structure RowOf (members : List Entity) (cells : List Value) (row : JoinedRow) : Prop where
  length_eq : row.places.length = members.length
  place : ∀ (i : Nat) (e : Entity), members[i]? = some e →
    ∃ record, e.readRecord (ownRow members i e cells) [] = .ok record ∧ row.places[i]? = some (some ⟨e, record⟩)

/-- A member that cannot be read from its own row, with the reason. -/
def Unreadable (members : List Entity) (cells : List Value) (e : Entity) (err : Error) : Prop :=
  ∃ i : Nat, members[i]? = some e ∧ e.readRecord (ownRow members i e cells) [] = .error err

private def labelsOf (e : Entity) : List Text :=
  (e.columns.map Column.name).map (e.labelMark ++ ·)

private theorem labels_selectedFrom (index : Nat) (members : List Entity) :
    (selectedFrom index members).map SelectedColumn.label = members.flatMap labelsOf := by
  induction members generalizing index with
  | nil => rfl
  | cons e members ih =>
    rw [selectedFrom, List.map_append, ih, List.flatMap_cons, selectedOf, labelsOf, List.map_map, List.map_map]
    rfl

private theorem length_flatMap_labelsOf (members : List Entity) :
    (members.flatMap labelsOf).length = (members.flatMap Entity.columns).length := by
  induction members with
  | nil => rfl
  | cons e members ih => simp only [List.flatMap_cons, List.length_append, ih, labelsOf, List.length_map]

variable {members : List Entity}

private theorem get?_labels (hnames : (members.map Entity.name).Nodup) (hplain : ∀ e ∈ members, e.HasPlainName)
    {i : Nat} {e : Entity} (he : members[i]? = some e) {c : Column} (hc : c ∈ e.columns) (cells : List Value) :
    (Row.mk (members.flatMap labelsOf) cells).get? (e.labelMark ++ c.name) =
      (ownRow members i e cells).get? c.name := by
  obtain ⟨hi, rfl⟩ := List.getElem?_eq_some_iff.mp he
  have hsplit : members = members.take i ++ members[i] :: members.drop (i + 1) := by
    rw [← List.drop_eq_getElem_cons hi, List.take_append_drop]
  -- an earlier member has another name, and so none of its labels is one of this member
  have hearlier : members[i].labelMark ++ c.name ∉ (members.take i).flatMap labelsOf := by
    intro hmem
    obtain ⟨e, hearlier, hlabel⟩ := List.mem_flatMap.mp hmem
    simp only [labelsOf, List.map_map, List.mem_map, Function.comp_apply] at hlabel
    obtain ⟨c', -, hlabel⟩ := hlabel
    have hname := name_eq_of_label_eq (hplain e (List.mem_of_mem_take hearlier))
      (hplain _ (List.getElem_mem hi)) hlabel
    rw [hsplit, List.map_append, List.nodup_append] at hnames
    exact hnames.2.2 e.name (List.mem_map_of_mem hearlier) _ (List.mem_cons_self ..) hname
  have hown : members[i].labelMark ++ c.name ∈ labelsOf members[i] :=
    List.mem_map_of_mem (List.mem_map_of_mem hc)
  have hlabels : members.flatMap labelsOf = (members.take i).flatMap labelsOf ++ labelsOf members[i] ++
      (members.drop (i + 1)).flatMap labelsOf := by
    rw [List.append_assoc, ← List.flatMap_cons, ← List.flatMap_append, ← hsplit]
  rw [hlabels, get?_append hearlier hown, labelsOf, Row.get?_map_append, ownRow, cellsBefore, length_flatMap_labelsOf]
  simp

/-- A member is read from its own row, except that a failure names the label instead of the column. -/
private theorem readRecord_labels (hnames : (members.map Entity.name).Nodup)
    (hplain : ∀ e ∈ members, e.HasPlainName) {i : Nat} {e : Entity} (he : members[i]? = some e)
    (cells : List Value) :
    e.readRecord ⟨members.flatMap labelsOf, cells⟩ e.labelMark =
      (e.readRecord (ownRow members i e cells) []).mapError (.marked e.labelMark) :=
  mapM_mapError fun _ hc => decodeOrDefault_of_get? (get?_labels hnames hplain he hc cells) _

section

variable {chain : JoinChain} (hnames : (chain.members.map Entity.name).Nodup)
  (hplain : ∀ e ∈ chain.members, e.HasPlainName) {cells : List Value}

include hnames hplain

private theorem readRow_eq_ok_iff {row : JoinedRow} :
    chain.readRow ⟨chain.statement.labels, cells⟩ = .ok row ↔ RowOf chain.members cells row := by
  have hlabels : chain.statement.labels = chain.members.flatMap labelsOf := labels_selectedFrom 0 chain.members
  rw [readRow, map_eq_ok_iff, hlabels]
  constructor
  · rintro ⟨places, hplaces, rfl⟩
    obtain ⟨hlength, hevery⟩ := mapM_eq_ok_iff.mp hplaces
    refine ⟨hlength, fun i e he => ?_⟩
    obtain ⟨place, hplace, hread⟩ := hevery i e he
    obtain ⟨record, hrecord, rfl⟩ := map_eq_ok_iff.mp hread
    rw [readRecord_labels hnames hplain he cells] at hrecord
    cases hown : e.readRecord (ownRow chain.members i e cells) [] with
    | error err =>
      rw [hown] at hrecord
      exact nomatch hrecord
    | ok own =>
      rw [hown] at hrecord
      exact ⟨own, rfl, Except.ok.inj hrecord ▸ hplace⟩
  · intro hrow
    refine ⟨row.places, mapM_eq_ok_iff.mpr ⟨hrow.length_eq, fun i e he => ?_⟩, rfl⟩
    obtain ⟨record, hrecord, hplace⟩ := hrow.place i e he
    refine ⟨_, hplace, ?_⟩
    rw [readRecord_labels hnames hplain he, hrecord]
    rfl

private theorem exists_of_readRow_eq_error {err : Error}
    (h : chain.readRow ⟨chain.statement.labels, cells⟩ = .error err) :
    ∃ e column fault, Unreadable chain.members cells e (.decode column fault) ∧
      err = .decode (Entity.labelMark e ++ column) fault := by
  have hlabels : chain.statement.labels = chain.members.flatMap labelsOf := labels_selectedFrom 0 chain.members
  rw [readRow, hlabels, ← failure?_eq_some_iff, failure?_map, failure?_eq_some_iff] at h
  obtain ⟨e, hmem, herr⟩ := exists_of_mapM_eq_error h
  obtain ⟨i, he⟩ := List.mem_iff_getElem?.mp hmem
  rw [← failure?_eq_some_iff, failure?_map, failure?_eq_some_iff, readRecord_labels hnames hplain he] at herr
  cases hown : e.readRecord (ownRow chain.members i e cells) [] with
  | ok own =>
    rw [hown] at herr
    exact nomatch herr
  | error own =>
    have hdecode := failsWith_readRecord e _ [] own hown
    rw [hown] at herr
    cases own with
    | decode column fault => exact ⟨e, column, fault, ⟨i, he, hown⟩, (Except.error.inj herr).symm⟩
    | _ => simp [Error.isDecode] at hdecode

private theorem exists_readRow_eq_error_iff :
    (∃ err, chain.readRow ⟨chain.statement.labels, cells⟩ = .error err) ↔
      ∃ e err, Unreadable chain.members cells e err := by
  constructor
  · rintro ⟨err, h⟩
    obtain ⟨e, column, fault, hunreadable, -⟩ := exists_of_readRow_eq_error hnames hplain h
    exact ⟨e, _, hunreadable⟩
  · rintro ⟨e, err, i, he, hown⟩
    rw [exists_error_iff_not_ok]
    rintro ⟨row, hrow⟩
    obtain ⟨record, hrecord, -⟩ := ((readRow_eq_ok_iff hnames hplain).mp hrow).place i e he
    simp [hrecord] at hown

end

private theorem on_read {chain : JoinChain} {t : Text} {labels : List Text} {answer : List (List Value)} {s : Session}
    (hsql : chain.sql = .ok t) (hguard : Guard.isSuspect t = false) (hnext : s.next = .rows labels answer) :
    ∃ s', chain.read.on s = ((answer.map (Row.mk labels)).mapM chain.readRow, s') := by
  have hpassed : Guard.isSuspect (Operation.queryOf t).sql = false := hguard
  obtain ⟨s', -, hperform⟩ := perform_reached hpassed s
  have houtcome : s.next.outcome = .ok (some (.rows labels answer)) := by rw [hnext]; rfl
  refine ⟨s', ?_⟩
  rw [Operation.read_eq, Action.on_bind, Action.on_ofExcept, hsql]
  dsimp only
  rw [Action.on_bind, hperform, houtcome]
  exact Action.on_ofExcept _ s'

/-- The rows of a join are read member by member, each member from its own cells.  Reading ends with a row for every
row of the answer, in order, or fails in decoding if a member cannot be read from its own cells. -/
theorem read_ofJoinings (root : Entity) (joinings : List Joining) {t : Text} {st : JoinStatement} {s : Session}
    {answer : List (List Value)} (hsql : (ofJoinings root joinings).sql = .ok t) (hguard : Guard.isSuspect t = false)
    (hnames : ((ofJoinings root joinings).members.map Entity.name).Nodup)
    (hplain : ∀ e ∈ (ofJoinings root joinings).members, e.HasPlainName) (hread : JoinStatement.read? t = some st)
    (hnext : s.next = .rows st.labels answer) :
    ∃ x s', (ofJoinings root joinings).read.on s = (x, s') ∧
      (∀ rows, x = .ok rows ↔ rows.length = answer.length ∧ ∀ (r : Nat) (cells : List Value),
        answer[r]? = some cells → ∃ row, rows[r]? = some row ∧ RowOf (ofJoinings root joinings).members cells row) ∧
      ((∃ err, x = .error err) ↔
        ∃ cells ∈ answer, ∃ e err, Unreadable (ofJoinings root joinings).members cells e err) ∧
      ∀ err, x = .error err → ∃ cells ∈ answer, ∃ e column fault,
        Unreadable (ofJoinings root joinings).members cells e (.decode column fault) ∧
        err = .decode (Entity.labelMark e ++ column) fault := by
  have hstatement := (follows_ofJoinings root joinings).read?_sql hsql
  generalize ofJoinings root joinings = chain at *
  obtain rfl : st = chain.statement := by simpa [hread] using hstatement
  obtain ⟨s', hrun⟩ := on_read hsql hguard hnext
  refine ⟨_, s', hrun, fun rows => ?_, ?_, fun err herr => ?_⟩
  · rw [List.mapM_map, mapM_eq_ok_iff]
    simp only [Function.comp_apply, readRow_eq_ok_iff hnames hplain]
  · rw [List.mapM_map, exists_mapM_eq_error_iff]
    simp only [Function.comp_apply, exists_readRow_eq_error_iff hnames hplain]
  · rw [List.mapM_map] at herr
    obtain ⟨cells, hmem, hfails⟩ := exists_of_mapM_eq_error herr
    exact ⟨cells, hmem, exists_of_readRow_eq_error hnames hplain hfails⟩

/-- Two entities whose labels differ only in an underscore, with columns that contain the separator and a quote. -/
theorem read_ofJoinings_similar :
    let a : Entity := ⟨['A'], [], ['t'], [{ name := "b__i'".toList, type := ⟨.int64, false⟩ }]⟩
    let b : Entity := ⟨"A_b".toList, [], ['u'], [{ name := "i'".toList, type := ⟨.int64, false⟩ }]⟩
    let joinings : List Joining := [⟨.inner, b, fun scope =>
      .binary .equal ((scope.at? 0).col "b__i'".toList) (scope.last.col "i'".toList)⟩]
    let s : Session := { replies := [.rows ["A__b__i'".toList, "A_b__i'".toList] [[.int 1, .int 2]]] }
    ∃ s', (ofJoinings a joinings).read.on s =
      (.ok [⟨[some ⟨a, [.int 1]⟩, some ⟨b, [.int 2]⟩]⟩], s') := by
  intro a b joinings s
  have hsql : (ofJoinings a joinings).sql = .ok ((ofJoinings a joinings).sql.toOption.getD []) := rfl
  have hplain : ∀ e ∈ (ofJoinings a joinings).members, e.HasPlainName := by
    intro e he
    rcases List.mem_pair.mp he with rfl | rfl <;> exact ⟨by decide, by decide⟩
  obtain ⟨x, s', hrun, hok, -⟩ := read_ofJoinings a joinings (s := s) hsql (by decide +kernel) (by decide) hplain
    ((follows_ofJoinings a joinings).read?_sql hsql) rfl
  refine ⟨s', hrun.trans (Prod.ext ((hok _).mpr ⟨rfl, fun r cells hcells => ?_⟩) rfl)⟩
  obtain ⟨rfl, rfl⟩ : r = 0 ∧ [.int 1, .int 2] = cells := by
    cases r with
    | zero => exact ⟨rfl, Option.some.inj hcells⟩
    | succ r => simp at hcells
  refine ⟨_, rfl, rfl, fun i e he => ?_⟩
  match i with
  | 0 =>
    obtain rfl := Option.some.inj he
    exact ⟨[.int 1], rfl, rfl⟩
  | 1 =>
    obtain rfl := Option.some.inj he
    exact ⟨[.int 2], rfl, rfl⟩

end JoinChain

end EntityStore
