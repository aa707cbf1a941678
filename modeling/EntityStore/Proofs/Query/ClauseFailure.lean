import EntityStore.Proofs.FirstFault
import EntityStore.Proofs.Outcome
import EntityStore.Query.Clause

/-!
# The first failure decides a clause

A step fails if its condition cannot be made, or if it ends a group and no group is open.  Which of these is the case
is said by the steps alone: a condition is made or not whatever was built before it (`Condition.failure?_make`), and
the groups that are open are the groups begun less the groups ended.  What any other step makes of a clause is said by
`Clause.Makes`.

The first step that fails decides the clause (`Clause.run_decided`).  Its failure is what the clause ends with, and no
later step changes anything.  If no step fails, the clause has a text as soon as all its groups were ended.
-/

namespace EntityStore

/-! ### Conditions that cannot be made -/

/-- Why a value has no literal, if it has none. -/
def Value.literalFault? : Value → Option Error
  | .null => some (.unsupportedType .nullLiteral)
  | .bytes _ => some (.unsupportedType .binaryLiteral)
  | .list _ => some (.unsupportedType .listLiteral)
  | .double d => if d.isFinite then none else some (.unsupportedType (.notFinite d))
  | _ => none

/-- The values that a comparison writes as literals: the leaves of a list that it looks into, otherwise the value. -/
def Comparison.operands : Comparison → Value → List Value
  | .isIn, v => v.leaves
  | .isNotIn, v => v.leaves
  | _, v => [v]

/-- Why a comparison of a column makes no condition, if it makes none.  Only a comparison with null goes without a
value, an order takes a number, and everything that is compared with needs a literal. -/
def Comparison.fault? (comparison : Comparison) (column : Text) (value? : Option Value) : Option Error :=
  if comparison.isNullCheck then none
  else
    match value? with
    | none => some (.invalidComparison (.missingValue comparison column))
    | some v =>
      if comparison.isOrdering && !v.isNumeric then
        some (.invalidComparison (.notNumeric comparison column v.kind))
      else (comparison.operands v).findSome? Value.literalFault?

theorem Value.failure?_literal (v : Value) : failure? v.literal = v.literalFault? := by
  cases v with
  | double d => by_cases h : d.isFinite = true <;> simp [literal, literalFault?, h]
  | _ => rfl

theorem failure?_literalBatches (v : Value) :
    failure? v.literalBatches = v.leaves.findSome? Value.literalFault? := by
  rw [Value.literalBatches, failure?_map, Value.literals, failure?_mapM]
  simp only [Value.failure?_literal]

private theorem failure?_conditionText (column : Text) (comparison : Comparison) (v : Value) (textCast : Bool) :
    failure? (conditionText column comparison (some v) textCast) =
      (comparison.operands v).findSome? Value.literalFault? := by
  have hliteral (render : Text → Text) : failure? (v.literal.map render) = [v].findSome? Value.literalFault? := by
    rw [failure?_map, Value.failure?_literal, List.findSome?_singleton]
  have hbatches (render : List Text → Text) :
      failure? (v.literalBatches.map render) = v.leaves.findSome? Value.literalFault? := by
    rw [failure?_map, failure?_literalBatches]
  cases comparison with
  | isIn => exact hbatches _
  | isNotIn => exact hbatches _
  | _ => exact hliteral _

/-- A condition fails for the reason that its parts give.  Whether the column is cast to text has no part in it. -/
theorem Condition.failure?_make (column : Text) (comparison : Comparison) (value? : Option Value) (textCast : Bool) :
    failure? (make column comparison value? textCast) = comparison.fault? column value? := by
  have hmake (used : Option Value) (h : operand column comparison value? = .ok used) :
      failure? (make column comparison value? textCast) =
        failure? (conditionText column comparison used textCast) := by
    unfold make
    rw [h]
    dsimp only
    split <;> simp_all
  unfold Comparison.fault?
  by_cases hnull : comparison.isNullCheck = true
  · rw [if_pos hnull, hmake none (by simp only [operand, if_pos hnull])]
    rfl
  · rw [if_neg hnull]
    cases value? with
    | none => simp [make, operand, hnull]
    | some v =>
      dsimp only
      by_cases hordering : (comparison.isOrdering && !v.isNumeric) = true
      · rw [if_pos hordering]
        simp only [make, operand, if_neg hnull, if_pos hordering, failure?_error]
      · rw [if_neg hordering, hmake (some v) (by simp only [operand, if_neg hnull, if_neg hordering]),
          failure?_conditionText]

/-! ### Conditions that can be made -/

/-- A condition has the parts that it was made of. -/
theorem Condition.parts_of_make {column : Text} {comparison : Comparison} {value? : Option Value} {textCast : Bool}
    {c : Condition} (h : make column comparison value? textCast = .ok c) :
    c.column = column ∧ c.comparison = comparison ∧ c.textCast = textCast ∧
      operand column comparison value? = .ok c.value? := by
  unfold make at h
  split at h
  · cases h
  · next used hused =>
    split at h
    · cases h
    · obtain rfl := Except.ok.inj h
      exact ⟨rfl, rfl, rfl, hused⟩

/-- A condition that does not ask for null keeps its value, and its text is made of it. -/
theorem Condition.value?_of_make {column : Text} {comparison : Comparison} {v : Value} {textCast : Bool} {c : Condition}
    (hnull : comparison.isNullCheck = false) (h : make column comparison (some v) textCast = .ok c) :
    c.value? = some v ∧ conditionText column comparison (some v) textCast = .ok c.sql := by
  obtain ⟨rfl, rfl, rfl, hoperand⟩ := parts_of_make h
  have hvalue : c.value? = some v := by
    simp only [operand, hnull, Bool.false_eq_true, if_false] at hoperand
    split at hoperand
    · cases hoperand
    · exact (Except.ok.inj hoperand).symm
  rw [← hvalue]
  exact ⟨rfl, c.sql_eq⟩

/-! ### Steps that fail -/

namespace Step

/-- Whether a step begins a group. -/
def isBegin : Step → Bool
  | .beginGroup _ _ _ _ => true
  | _ => false

/-- Whether a step ends a group. -/
def isEnd : Step → Bool
  | .endGroup => true
  | _ => false

/-- The groups begun less the groups ended. -/
def balance (steps : List Step) : Int :=
  steps.countP isBegin - steps.countP isEnd

/-- Why a step fails after the steps before it, if it does. -/
def fault? (earlier : List Step) : Step → Option Error
  | .condition _ column comparison value? => comparison.fault? column value?
  | .beginGroup _ column comparison value? => comparison.fault? column value?
  | .endGroup => if balance earlier ≤ 0 then some .unbalancedGroup else none

theorem balance_concat (steps : List Step) (s : Step) :
    balance (steps ++ [s]) = balance steps + (if s.isBegin then 1 else 0) - (if s.isEnd then 1 else 0) := by
  simp only [balance, List.countP_append, List.countP_singleton]
  split <;> split <;> omega

end Step

/-! ### Steps that succeed -/

namespace Clause

/-- What a step that does not fail makes of a clause. -/
inductive Makes (w : Clause) : Step → Clause → Prop
  | condition {joint : Joint} {column : Text} {comparison : Comparison} {value? : Option Value} {c : Condition}
      (h : w.conditionOf column comparison value? = .ok c) :
      w.Makes (.condition joint column comparison value?) (w.push (.condition joint c))
  | beginGroup {joint : Joint} {column : Text} {comparison : Comparison} {value? : Option Value} {c : Condition}
      (h : w.conditionOf column comparison value? = .ok c) :
      w.Makes (.beginGroup joint column comparison value?)
        { w with groups := ⟨joint, [.condition .initial c]⟩ :: w.groups }
  | endGroup {g : OpenGroup} {outer : List OpenGroup} (h : w.groups = g :: outer) :
      w.Makes .endGroup (({ w with groups := outer } : Clause).push (.group g.joint g.links))

/-- A step makes its part of the clause or fails, and then it leaves the clause as it is but for the failure. -/
theorem makes_or_fails (w : Clause) (s : Step) :
    w.Makes s (w.step s) ∨ ∃ err, w.step s = { w with error? := some err } := by
  unfold step
  split
  · next hsome =>
    obtain ⟨err, herr⟩ := Option.isSome_iff_exists.mp hsome
    exact .inr ⟨err, by rw [← herr]⟩
  · cases s with
    | condition joint column comparison value? =>
      dsimp only
      split
      · next c hc => exact .inl (.condition hc)
      · next err herr => exact .inr ⟨err, rfl⟩
    | beginGroup joint column comparison value? =>
      dsimp only
      split
      · next c hc => exact .inl (.beginGroup hc)
      · next err herr => exact .inr ⟨err, rfl⟩
    | endGroup =>
      dsimp only
      split
      · next g outer hgroups => exact .inl (.endGroup hgroups)
      · exact .inr ⟨_, rfl⟩

theorem makes_step {w : Clause} {s : Step} (h : (w.step s).error? = none) : w.Makes s (w.step s) := by
  rcases w.makes_or_fails s with hmakes | ⟨err, hfails⟩
  · exact hmakes
  · rw [hfails] at h
    cases h

/-- A failure stays in the clause. -/
theorem error?_of_step {w : Clause} {s : Step} (h : (w.step s).error? = none) : w.error? = none := by
  unfold step at h
  split at h
  · exact h
  · next hnone => simpa using hnone

end Clause

/-! ### Runs of steps -/

namespace Clause

open Step

/-- A clause without failure, in which as many groups are open as the steps so far began and did not end. -/
structure Sound (w : Clause) (steps : List Step) : Prop where
  error?_eq : w.error? = none
  openGroups_eq : (w.openGroups : Int) = balance steps

private theorem push_eq (w : Clause) (link : Link) :
    (w.push link).error? = w.error? ∧ (w.push link).openGroups = w.openGroups := by
  unfold push
  split
  · exact ⟨rfl, rfl⟩
  · next g outer hgroups => exact ⟨rfl, by simp [openGroups, hgroups]⟩

private theorem failure?_conditionOf (w : Clause) (column : Text) (comparison : Comparison) (value? : Option Value) :
    failure? (w.conditionOf column comparison value?) = comparison.fault? column value? :=
  Condition.failure?_make _ _ _ _

/-- A step that fails records its failure and does nothing else. -/
private theorem Sound.step_of_fault {w : Clause} {steps : List Step} {s : Step} {err : Error} (hw : w.Sound steps)
    (hs : s.fault? steps = some err) : w.step s = { w with error? := some err } := by
  have hopen := hw.openGroups_eq
  unfold Clause.step
  rw [if_neg (by simp [hw.error?_eq])]
  cases s with
  | condition joint column comparison value? =>
    rw [Step.fault?, ← w.failure?_conditionOf, failure?_eq_some_iff] at hs
    simp only [hs]
  | beginGroup joint column comparison value? =>
    rw [Step.fault?, ← w.failure?_conditionOf, failure?_eq_some_iff] at hs
    simp only [hs]
  | endGroup =>
    rw [Step.fault?, Option.ite_none_right_eq_some] at hs
    obtain ⟨hbalance, herr⟩ := hs
    have hgroups : w.groups = [] := List.length_eq_zero_iff.mp (by rw [openGroups] at hopen; omega)
    simp only [hgroups, herr]

/-- A step that does not fail opens a group, closes one or leaves them as they are. -/
private theorem Sound.step {w : Clause} {steps : List Step} {s : Step} (hw : w.Sound steps)
    (hs : s.fault? steps = none) : (w.step s).Sound (steps ++ [s]) := by
  have hopen := hw.openGroups_eq
  unfold Clause.step
  rw [if_neg (by simp [hw.error?_eq])]
  cases s with
  | condition joint column comparison value? =>
    rw [Step.fault?, ← w.failure?_conditionOf, failure?_eq_none_iff] at hs
    obtain ⟨c, hc⟩ := hs
    obtain ⟨herror, hgroups⟩ := w.push_eq (.condition joint c)
    simp only [hc]
    refine ⟨herror.trans hw.error?_eq, ?_⟩
    rw [hgroups, hopen, balance_concat]
    simp [isBegin, isEnd]
  | beginGroup joint column comparison value? =>
    rw [Step.fault?, ← w.failure?_conditionOf, failure?_eq_none_iff] at hs
    obtain ⟨c, hc⟩ := hs
    simp only [hc]
    refine ⟨hw.error?_eq, ?_⟩
    rw [openGroups] at hopen
    rw [openGroups, balance_concat, ← hopen]
    simp [isBegin, isEnd]
  | endGroup =>
    have hbalance : 0 < balance steps := by
      by_contra hle
      rw [Step.fault?, if_pos (by omega)] at hs
      simp at hs
    cases hgroups : w.groups with
    | nil =>
      rw [openGroups, hgroups, List.length_nil] at hopen
      omega
    | cons g outer =>
      -- the group that was innermost becomes a link of what is around it
      obtain ⟨herror, hlength⟩ := ({ w with groups := outer } : Clause).push_eq (.group g.joint g.links)
      refine ⟨herror.trans hw.error?_eq, ?_⟩
      have houter : (outer.length : Int) + 1 = balance steps := by
        simp [← hopen, openGroups, hgroups]
      dsimp only
      rw [hlength, balance_concat, ← houter]
      simp [openGroups, isBegin, isEnd]

theorem run_concat (w : Clause) (steps : List Step) (s : Step) : w.run (steps ++ [s]) = (w.run steps).step s := by
  rw [run, List.foldl_append]
  rfl

theorem run_append (w : Clause) (steps later : List Step) : w.run (steps ++ later) = (w.run steps).run later := by
  rw [run, List.foldl_append]
  rfl

theorem run_of_error {w : Clause} (h : w.error?.isSome = true) (steps : List Step) : w.run steps = w := by
  induction steps with
  | nil => rfl
  | cons s steps ih =>
    have hstep : w.step s = w := by simp only [Clause.step, h, if_true]
    rw [Clause.run, List.foldl_cons, hstep]
    exact ih

private theorem sound_run (columns : List Column) {steps : List Step} (h : Faultless Step.fault? steps) :
    (({ columns } : Clause).run steps).Sound steps := by
  induction steps using List.reverseRecOn with
  | nil => exact ⟨rfl, rfl⟩
  | append_singleton steps s ih =>
    obtain ⟨hsteps, hs⟩ := faultless_concat_iff.mp h
    rw [run_concat]
    exact (ih hsteps).step hs

/-- From the first failure on the clause is what it was before, with the failure. -/
private theorem run_of_firstFault (columns : List Column) {steps : List Step} {i : Nat} {err : Error}
    (h : FirstFault Step.fault? steps i err) {n : Nat} (hn : i < n) :
    ({ columns } : Clause).run (steps.take n) =
      { ({ columns } : Clause).run (steps.take i) with error? := some err } := by
  obtain ⟨s, hs, hfault⟩ := h.fails
  obtain ⟨hi, rfl⟩ := List.getElem?_eq_some_iff.mp hs
  have hsplit : steps.take n = (steps.take i ++ [steps[i]]) ++ (steps.take n).drop (i + 1) := by
    have htake : (steps.take n).take (i + 1) = steps.take (i + 1) := by rw [List.take_take, Nat.min_eq_left hn]
    rw [List.take_append_getElem hi, ← htake, List.take_append_drop]
  rw [hsplit, run_append, run_concat, (sound_run columns h.earlier).step_of_fault hfault]
  exact run_of_error rfl _

private theorem toText_of_error {w : Clause} {err : Error} (h : w.error? = some err) : w.toText = .error err := by
  rw [toText, h]

theorem toText_eq_ok_iff {w : Clause} {t : Text} :
    w.toText = .ok t ↔ w.error? = none ∧ w.groups = [] ∧ linksText true w.links = t := by
  unfold toText
  cases herror : w.error? with
  | some e => simp
  | none => cases hgroups : w.groups <;> simp

private theorem Sound.toText {w : Clause} {steps : List Step} (hw : w.Sound steps) :
    w.toText = if 0 < balance steps then .error (.unclosedGroup (balance steps).toNat)
      else .ok (linksText true w.links) := by
  have hopen := hw.openGroups_eq
  rw [Clause.toText, hw.error?_eq]
  rw [openGroups] at hopen
  cases hgroups : w.groups with
  | nil =>
    rw [hgroups, List.length_nil] at hopen
    rw [if_neg (by omega)]
  | cons g outer =>
    rw [hgroups, List.length_cons] at hopen
    rw [if_pos (by omega), ← hopen]
    rfl

/-- The first step that fails decides what the steps end with. -/
theorem run_decided (columns : List Column) (steps : List Step) :
    (∃ i err, FirstFault Step.fault? steps i err ∧
      (({ columns } : Clause).run steps).toText = .error err ∧
      (∀ n, i < n → ({ columns } : Clause).run (steps.take n) =
        { ({ columns } : Clause).run (steps.take i) with error? := some err }) ∧
      ∀ n ≤ i, (({ columns } : Clause).run (steps.take n)).Sound (steps.take n)) ∨
    (Faultless Step.fault? steps ∧
      (∀ n, (({ columns } : Clause).run (steps.take n)).Sound (steps.take n)) ∧
      (({ columns } : Clause).run steps).toText =
        if 0 < balance steps then .error (.unclosedGroup (balance steps).toNat)
        else .ok (linksText true (({ columns } : Clause).run steps).links)) := by
  rcases faultless_or_firstFault Step.fault? steps with hfaultless | ⟨i, err, hfirst⟩
  · exact .inr ⟨hfaultless, fun n => sound_run columns (hfaultless.take n), (sound_run columns hfaultless).toText⟩
  · refine .inl ⟨i, err, hfirst, ?_, fun n hn => run_of_firstFault columns hfirst hn, fun n hn => ?_⟩
    · -- all steps together are more than those before the first failure
      obtain ⟨s, hs, -⟩ := hfirst.fails
      have hall := run_of_firstFault columns hfirst (List.getElem?_eq_some_iff.mp hs).1
      rw [List.take_length] at hall
      rw [hall]
      exact toText_of_error rfl
    · have hearlier := hfirst.earlier.take n
      rw [List.take_take, Nat.min_eq_left hn] at hearlier
      exact sound_run columns hearlier

end Clause

end EntityStore
