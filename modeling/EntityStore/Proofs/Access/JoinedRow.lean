import EntityStore.Access.Join

/-!
# Records leave a row of a join once

A row of a join is asked for records by position or by entity, and records are moved out of it.  A call can only empty
the place that it takes a record from (`JoinedRow.has_call_iff`), so that what is left after any calls is known from
the calls alone: a member is left unless it was asked for at its own position under its own entity
(`JoinedRow.has_after_iff`).  Every answer can therefore be told from the row as it was at first and the calls up to
then, and no position is emptied twice (`JoinedRow.answers_after`).
-/

namespace EntityStore

/-- A call on a row of a join: the record at a position, the first record of an entity, or the record at a position
moved out of the row. -/
inductive RowCall where
  | get (e : Entity) (index : Nat)
  | first (e : Entity)
  | take (e : Entity) (index : Nat)
  deriving DecidableEq

namespace JoinedRow

/-- What a call answers, and the row that it leaves behind. -/
def call (row : JoinedRow) : RowCall → Option Record × JoinedRow
  | .get e index => (row.get? e index, row)
  | .first e => (row.first? e, row)
  | .take e index => row.take? e index

/-- The row that is left after calls. -/
def after (row : JoinedRow) : List RowCall → JoinedRow
  | [] => row
  | c :: calls => (row.call c).2.after calls

/-- The position that a call moves a record out of. -/
def emptied? (row : JoinedRow) : RowCall → Option Nat
  | .take e index => (row.take? e index).1.map fun _ => index
  | .get _ _ | .first _ => none

/-- The positions that calls move records out of, in the order of the calls. -/
def emptied (row : JoinedRow) : List RowCall → List Nat
  | [] => []
  | c :: calls => (row.emptied? c).toList ++ (row.call c).2.emptied calls

/-- A member is at a position of a row. -/
def Has (row : JoinedRow) (index : Nat) (member : Member) : Prop :=
  row.places[index]? = some (some member)

/-- A member was at a position of a row at first, and none of the calls was for the record of its entity there. -/
def Leaves (row : JoinedRow) (calls : List RowCall) (index : Nat) (member : Member) : Prop :=
  row.Has index member ∧ .take member.entity index ∉ calls

variable {row : JoinedRow} {e : Entity} {index : Nat} {r : Record} {member : Member} {c : RowCall}
  {calls : List RowCall}

/-! ### One call -/

private theorem bind_recordOf?_eq_some_iff {place : Option Member} :
    place.bind (recordOf? e) = some r ↔ place = some ⟨e, r⟩ := by
  cases place with
  | none => simp
  | some member =>
    obtain ⟨e', r'⟩ := member
    simp [recordOf?]

/-- The record at a position is that of the member there, if it is of the entity. -/
theorem get?_eq_some_iff : row.get? e index = some r ↔ row.Has index ⟨e, r⟩ := by
  rw [get?, bind_recordOf?_eq_some_iff, Option.join_eq_some_iff, Has]

/-- The first record of an entity is that of the first member of the entity. -/
theorem first?_eq_some_iff :
    row.first? e = some r ↔ ∃ i, row.Has i ⟨e, r⟩ ∧ ∀ j < i, ∀ r', ¬row.Has j ⟨e, r'⟩ := by
  rw [first?, List.findSome?_eq_some_iff]
  constructor
  · rintro ⟨before, place, behind, hplaces, hplace, hbefore⟩
    rw [bind_recordOf?_eq_some_iff] at hplace
    refine ⟨before.length, ?_, fun j hj r' hr' => ?_⟩
    · rw [Has, hplaces, hplace, List.getElem?_append_right (Nat.le_refl _), Nat.sub_self, List.getElem?_cons_zero]
    · rw [Has, hplaces, List.getElem?_append_left hj] at hr'
      have hnone := hbefore _ (List.mem_of_getElem? hr')
      rw [bind_recordOf?_eq_some_iff.mpr rfl] at hnone
      exact nomatch hnone
  · rintro ⟨i, hi, hearlier⟩
    obtain ⟨hlt, hplace⟩ := List.getElem?_eq_some_iff.mp hi
    refine ⟨row.places.take i, row.places[i], row.places.drop (i + 1), ?_,
      bind_recordOf?_eq_some_iff.mpr hplace, fun place hmem => ?_⟩
    · rw [← List.drop_eq_getElem_cons hlt, List.take_append_drop]
    · obtain ⟨j, hj⟩ := List.mem_iff_getElem?.mp hmem
      rw [List.getElem?_take, Option.ite_none_right_eq_some] at hj
      rw [Option.eq_none_iff_forall_ne_some]
      intro r' hr'
      rw [bind_recordOf?_eq_some_iff] at hr'
      subst hr'
      exact hearlier j hj.1 r' hj.2

theorem fst_take? : (row.take? e index).1 = row.get? e index := by
  unfold take?
  cases row.get? e index <;> rfl

/-- A call for a record that is not there changes nothing. -/
theorem snd_take?_of_get?_eq_none (h : row.get? e index = none) : (row.take? e index).2 = row := by
  rw [take?, h]

theorem length_take? : (row.take? e index).2.length = row.length := by
  unfold take?
  split
  · exact List.length_set
  · rfl

/-- What stays in a row when a record is taken: all members but one of the entity at the position. -/
theorem has_take?_iff {j : Nat} :
    (row.take? e index).2.Has j member ↔ row.Has j member ∧ ¬(e = member.entity ∧ index = j) := by
  unfold take?
  split
  · next r' h =>
    rw [get?_eq_some_iff, Has] at h
    obtain ⟨hlt, -⟩ := List.getElem?_eq_some_iff.mp h
    rw [Has, Has]
    by_cases hj : index = j
    · subst hj
      rw [List.getElem?_set_self hlt, h]
      simp only [Option.some.injEq, reduceCtorEq, and_true, false_iff, not_and]
      rintro rfl hother
      exact hother rfl
    · rw [List.getElem?_set_ne hj]
      simp only [hj, and_false, not_false_eq_true, and_true]
  · next h =>
    rw [iff_self_and]
    rintro hmember ⟨rfl, rfl⟩
    rw [get?_eq_some_iff.mpr hmember] at h
    exact nomatch h

/-- What stays in a row after a call. -/
theorem has_call_iff {j : Nat} :
    (row.call c).2.Has j member ↔ row.Has j member ∧ c ≠ .take member.entity j := by
  cases c with
  | get e index => simp [call]
  | first e => simp [call]
  | take e index => simp only [call, has_take?_iff, ne_eq, RowCall.take.injEq]

theorem length_call : (row.call c).2.length = row.length := by
  cases c with
  | get e index => rfl
  | first e => rfl
  | take e index => exact length_take?

/-- A call changes no position but the one that it takes a record from. -/
theorem getElem?_call_of_ne {j : Nat} (h : ∀ e, c ≠ .take e j) : (row.call c).2.places[j]? = row.places[j]? := by
  cases c with
  | get e index => rfl
  | first e => rfl
  | take e index =>
    have hj : index ≠ j := by
      rintro rfl
      exact h e rfl
    simp only [call, take?]
    split
    · exact List.getElem?_set_ne hj
    · rfl

/-- A call moves a record out of a position exactly if it takes the one of the member there. -/
theorem emptied?_eq_some_iff :
    row.emptied? c = some index ↔ ∃ member, row.Has index member ∧ c = .take member.entity index := by
  cases c with
  | get e i => simp [emptied?]
  | first e => simp [emptied?]
  | take e i =>
    rw [emptied?, Option.map_eq_some_iff, fst_take?]
    constructor
    · rintro ⟨r, hr, rfl⟩
      exact ⟨⟨e, r⟩, get?_eq_some_iff.mp hr, rfl⟩
    · rintro ⟨⟨e', r⟩, hmember, hc⟩
      obtain ⟨rfl, rfl⟩ := RowCall.take.inj hc
      exact ⟨r, get?_eq_some_iff.mpr hmember, rfl⟩

/-! ### Any calls -/

theorem length_after : (row.after calls).length = row.length := by
  induction calls generalizing row with
  | nil => rfl
  | cons c calls ih => exact ih.trans length_call

/-- A member is still in a row after calls exactly if the row had it at first and no call was for its record. -/
theorem has_after_iff : (row.after calls).Has index member ↔ row.Leaves calls index member := by
  induction calls generalizing row with
  | nil => simp [after, Leaves]
  | cons c calls ih =>
    rw [after, ih, Leaves, Leaves, has_call_iff, List.mem_cons, not_or, and_assoc, ne_comm]

/-- The emptied positions are those that had a member whose record some call was for. -/
theorem mem_emptied_iff :
    index ∈ row.emptied calls ↔ ∃ member, row.Has index member ∧ .take member.entity index ∈ calls := by
  induction calls generalizing row with
  | nil => simp [emptied]
  | cons c calls ih =>
    rw [emptied, List.mem_append, Option.mem_toList, emptied?_eq_some_iff, ih]
    constructor
    · rintro (⟨member, hmember, rfl⟩ | ⟨member, hmember, hlater⟩)
      · exact ⟨member, hmember, List.mem_cons_self⟩
      · exact ⟨member, (has_call_iff.mp hmember).1, List.mem_cons_of_mem c hlater⟩
    · rintro ⟨member, hmember, hcalls⟩
      by_cases hc : c = .take member.entity index
      · exact .inl ⟨member, hmember, hc⟩
      · exact .inr ⟨member, has_call_iff.mpr ⟨hmember, hc⟩, (List.mem_cons.mp hcalls).resolve_left (Ne.symm hc)⟩

/-- No position is emptied twice. -/
theorem nodup_emptied : (row.emptied calls).Nodup := by
  induction calls generalizing row with
  | nil => exact List.nodup_nil
  | cons c calls ih =>
    rw [emptied]
    cases hfirst : row.emptied? c with
    | none => exact ih
    | some i =>
      refine List.nodup_cons.mpr ⟨fun hmem => ?_, ih⟩
      obtain ⟨member, hmember, hc⟩ := emptied?_eq_some_iff.mp hfirst
      obtain ⟨member', hmember', -⟩ := mem_emptied_iff.mp hmem
      obtain ⟨hsame, hother⟩ := has_call_iff.mp hmember'
      obtain rfl : member = member' := by
        rw [Has] at hmember hsame
        exact Option.some.inj (Option.some.inj (hmember.symm.trans hsame))
      exact hother hc

/-- What a row answers after any calls, told from the row at first and those calls.  A record is read or taken at a
position exactly if its member is left there, so that it is taken once and never again; taking what is not left, be it
of another entity, beyond the row or taken before, answers nothing and changes nothing; the first record of an entity
is that of the earliest member left.  The number of places stays, a call changes no position but the one that it takes
from, and no position is emptied twice. -/
theorem answers_after (row : JoinedRow) (calls : List RowCall) :
    (∀ e index r, (row.after calls).get? e index = some r ↔ row.Leaves calls index ⟨e, r⟩) ∧
    (∀ e index r, ((row.after calls).take? e index).1 = some r ↔ row.Leaves calls index ⟨e, r⟩) ∧
    (∀ e index, (∀ r, ¬row.Leaves calls index ⟨e, r⟩) → (row.after calls).take? e index = (none, row.after calls)) ∧
    (∀ e r, (row.after calls).first? e = some r ↔
      ∃ i, row.Leaves calls i ⟨e, r⟩ ∧ ∀ j < i, ∀ r', ¬row.Leaves calls j ⟨e, r'⟩) ∧
    (row.after calls).length = row.length ∧
    (∀ c index, (∀ e, c ≠ .take e index) →
      ((row.after calls).call c).2.places[index]? = (row.after calls).places[index]?) ∧
    (∀ index, index ∈ row.emptied calls ↔ ∃ member, row.Has index member ∧ .take member.entity index ∈ calls) ∧
    (row.emptied calls).Nodup := by
  refine ⟨fun e index r => ?_, fun e index r => ?_, fun e index hno => ?_, fun e r => ?_, length_after,
    fun c index => getElem?_call_of_ne, fun index => mem_emptied_iff, nodup_emptied⟩
  · rw [get?_eq_some_iff, has_after_iff]
  · rw [fst_take?, get?_eq_some_iff, has_after_iff]
  · have hget : (row.after calls).get? e index = none := by
      rw [Option.eq_none_iff_forall_ne_some]
      intro r hr
      exact hno r (has_after_iff.mp (get?_eq_some_iff.mp hr))
    exact Prod.ext (fst_take?.trans hget) (snd_take?_of_get?_eq_none hget)
  · simp only [first?_eq_some_iff, has_after_iff]

/-- A row with two orders: taking the first one under another entity leaves it, taking it twice takes it once, and the
first order is then the other one. -/
theorem answers_after_twoOrders :
    let order : Entity := ⟨"Order".toList, [], "Orders".toList, []⟩
    let customer : Entity := ⟨"Customer".toList, [], "Customers".toList, []⟩
    let row : JoinedRow := ⟨[some ⟨order, [.int 1]⟩, some ⟨customer, [.int 7]⟩, some ⟨order, [.int 2]⟩]⟩
    let calls : List RowCall := [.take customer 0, .take order 0, .first order, .take order 0, .take order 3]
    (row.after [.take customer 0]).get? order 0 = some [.int 1] ∧
    (row.after calls).take? order 0 = (none, row.after calls) ∧
    (row.after calls).first? order = some [.int 2] ∧
    row.emptied calls = [0] := by
  intro order customer row calls
  have hasked : .take order 0 ∈ calls := by simp only [calls, List.mem_cons, true_or, or_true]
  obtain ⟨hget, -⟩ := answers_after row [.take customer 0]
  obtain ⟨-, -, htake, hfirst, -⟩ := answers_after row calls
  refine ⟨(hget order 0 [.int 1]).mpr ⟨rfl, by decide⟩, htake order 0 fun r hleft => ?_,
    (hfirst order [.int 2]).mpr ⟨2, ⟨rfl, by decide⟩, fun j hj r hleft => ?_⟩, by decide⟩
  · exact hleft.2 hasked
  · obtain rfl | rfl : j = 0 ∨ j = 1 := by omega
    · exact hleft.2 hasked
    · exact absurd hleft.1 (by simp [Has, row, order, customer])

end JoinedRow

end EntityStore
