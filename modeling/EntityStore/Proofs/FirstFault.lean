import EntityStore.Error
import Mathlib.Data.List.Induction

/-!
# The first fault in a sequence

The parts of a sequence are judged one after the other, each by itself and by those before it.  A sequence either has
no fault or has a first one (`faultless_or_firstFault`), which is the same whatever follows it (`FirstFault.append`).
-/

namespace EntityStore

variable {α : Type} (fault? : List α → α → Option Error)

/-- No part is at fault. -/
def Faultless (as : List α) : Prop :=
  ∀ (i : Nat) (a : α), as[i]? = some a → fault? (as.take i) a = none

/-- The part at a position is at fault, and none before it is. -/
structure FirstFault (as : List α) (i : Nat) (err : Error) : Prop where
  fails : ∃ a, as[i]? = some a ∧ fault? (as.take i) a = some err
  earlier : Faultless fault? (as.take i)

variable {fault?} {as : List α}

/-- The positions in a sequence that was continued: those of its own parts, and that of the last one. -/
theorem getElem?_concat_cases {a b : α} {i : Nat} (h : (as ++ [a])[i]? = some b) :
    (as[i]? = some b ∧ (as ++ [a]).take i = as.take i) ∨ (i = as.length ∧ b = a ∧ (as ++ [a]).take i = as) := by
  rcases Nat.lt_trichotomy i as.length with hi | rfl | hi
  · rw [List.getElem?_append_left hi] at h
    exact .inl ⟨h, List.take_append_of_le_length (Nat.le_of_lt hi)⟩
  · rw [List.getElem?_concat_length] at h
    exact .inr ⟨rfl, (Option.some.inj h).symm, List.take_left⟩
  · rw [List.getElem?_eq_none (by simp; omega)] at h
    simp at h

theorem Faultless.nil : Faultless fault? [] := by
  intro i a h
  simp at h

theorem Faultless.take (h : Faultless fault? as) (n : Nat) : Faultless fault? (as.take n) := by
  intro i a ha
  rw [List.getElem?_take, Option.ite_none_right_eq_some] at ha
  rw [List.take_take, Nat.min_eq_left (Nat.le_of_lt ha.1)]
  exact h i a ha.2

theorem faultless_concat_iff {a : α} : Faultless fault? (as ++ [a]) ↔ Faultless fault? as ∧ fault? as a = none := by
  constructor
  · intro h
    have has := h.take as.length
    have ha := h as.length a List.getElem?_concat_length
    rw [List.take_left] at has ha
    exact ⟨has, ha⟩
  · rintro ⟨has, ha⟩ i b hb
    rcases getElem?_concat_cases hb with ⟨hb, htake⟩ | ⟨-, rfl, htake⟩
    · rw [htake]
      exact has i b hb
    · rw [htake]
      exact ha

theorem Faultless.firstFault {a : α} {err : Error} (h : Faultless fault? as) (ha : fault? as a = some err) :
    FirstFault fault? (as ++ [a]) as.length err := by
  refine ⟨⟨a, List.getElem?_concat_length, ?_⟩, ?_⟩
  · rw [List.take_left, ha]
  · rw [List.take_left]
    exact h

theorem FirstFault.append {i : Nat} {err : Error} (h : FirstFault fault? as i err) (later : List α) :
    FirstFault fault? (as ++ later) i err := by
  obtain ⟨a, ha, hfault⟩ := h.fails
  have hi : i < as.length := (List.getElem?_eq_some_iff.mp ha).1
  have htake : (as ++ later).take i = as.take i := List.take_append_of_le_length (Nat.le_of_lt hi)
  refine ⟨⟨a, by rw [List.getElem?_append_left hi, ha], by rw [htake, hfault]⟩, ?_⟩
  rw [htake]
  exact h.earlier

/-- A part before the first fault is not at fault. -/
theorem FirstFault.getElem? {i j : Nat} {err : Error} (h : FirstFault fault? as i err) (hj : j < i) {a : α}
    (ha : as[j]? = some a) : fault? (as.take j) a = none := by
  have hearlier := h.earlier j a (by rw [List.getElem?_take, if_pos hj, ha])
  rwa [List.take_take, Nat.min_eq_left (Nat.le_of_lt hj)] at hearlier

theorem FirstFault.unique {i i' : Nat} {err err' : Error} (h : FirstFault fault? as i err)
    (h' : FirstFault fault? as i' err') : i = i' ∧ err = err' := by
  obtain ⟨a, ha, hfault⟩ := h.fails
  obtain ⟨a', ha', hfault'⟩ := h'.fails
  rcases Nat.lt_trichotomy i i' with hlt | rfl | hlt
  · simp [h'.getElem? hlt ha] at hfault
  · obtain rfl : a = a' := by simpa [ha] using ha'
    exact ⟨rfl, by simpa [hfault] using hfault'⟩
  · simp [h.getElem? hlt ha'] at hfault'

/-- Either no part is at fault, or there is a first one that is. -/
theorem faultless_or_firstFault (fault? : List α → α → Option Error) (as : List α) :
    Faultless fault? as ∨ ∃ i err, FirstFault fault? as i err := by
  induction as using List.reverseRecOn with
  | nil => exact .inl .nil
  | append_singleton as a ih =>
    rcases ih with hfaultless | ⟨i, err, hfirst⟩
    · cases ha : fault? as a with
      | none => exact .inl (faultless_concat_iff.mpr ⟨hfaultless, ha⟩)
      | some err => exact .inr ⟨as.length, err, hfaultless.firstFault ha⟩
    · exact .inr ⟨i, err, hfirst.append [a]⟩

end EntityStore
