import EntityStore.Proofs.Query.ClauseFailure

/-!
# Clauses are written from left to right

A clause under way is a tree: groups that are still open wait on a stack, a group that ends becomes a link of what is
around it, and the text is made from the finished tree.  The text is nevertheless what comes out if every step is
written down as soon as it is made (`Clause.toText_run_eq_ok_iff`): its joint, unless it is the first step, and then
its condition, with a parenthesis before it if a group begins, or the other parenthesis if a group ends.

Trees, clauses under way and steps are compared by the fragments that they write.  What was written stays as it is,
since a step puts its fragments behind all others (`Clause.Begun.extends_of_makes`).
-/

namespace EntityStore

/-! ### Pieces of text -/

/-- What is written of a clause at a time. -/
inductive Fragment where
  | joint (j : Joint)
  | condition (c : Condition)
  | opening
  | closing

def Fragment.text : Fragment → Text
  | .joint j => j.separator
  | .condition c => c.sql
  | .opening => ['(']
  | .closing => [')']

/-- The text of fragments one after the other. -/
def Fragment.spell (fragments : List Fragment) : Text :=
  fragments.flatMap Fragment.text

mutual

/-- The fragments of a link without its joint. -/
def Link.fragments : Link → List Fragment
  | .condition _ c => [.condition c]
  | .group _ links => .opening :: linksFragments true links ++ [.closing]

/-- The fragments of links in order; a link at the beginning drops its joint. -/
def linksFragments (atStart : Bool) : List Link → List Fragment
  | [] => []
  | link :: rest => (if atStart then [] else [.joint link.joint]) ++ link.fragments ++ linksFragments false rest

end

namespace Step

/-- The joint of a step. -/
def joints : Step → List Fragment
  | .condition joint _ _ _ => [.joint joint]
  | .beginGroup joint _ _ _ => [.joint joint]
  | .endGroup => []

/-- The fragments of a step without its joint. -/
def fragments (columns : List Column) : Step → Except Error (List Fragment)
  | .condition _ column comparison value? =>
    (({ columns } : Clause).conditionOf column comparison value?).map fun c => [.condition c]
  | .beginGroup _ column comparison value? =>
    (({ columns } : Clause).conditionOf column comparison value?).map fun c => [.opening, .condition c]
  | .endGroup => .ok [.closing]

end Step

/-- The fragments of steps in order; a step at the beginning drops its joint. -/
def stepsFragments (columns : List Column) (atStart : Bool) : List Step → Except Error (List Fragment)
  | [] => .ok []
  | s :: rest => do
    let own ← s.fragments columns
    let others ← stepsFragments columns false rest
    .ok ((if atStart then [] else s.joints) ++ own ++ others)

/-- The text of steps that are written as they are made. -/
def stepsText (columns : List Column) (steps : List Step) : Except Error Text :=
  (stepsFragments columns true steps).map Fragment.spell

/-! ### The fragments of a tree -/

theorem Fragment.spell_append (fragments others : List Fragment) :
    spell (fragments ++ others) = spell fragments ++ spell others :=
  List.flatMap_append

theorem Fragment.spell_singleton (fragment : Fragment) : spell [fragment] = fragment.text :=
  List.append_nil _

private theorem spell_joint (atStart : Bool) (joint : Joint) :
    Fragment.spell (if atStart then [] else [.joint joint]) = if atStart then [] else joint.separator := by
  cases atStart with
  | false => exact Fragment.spell_singleton _
  | true => rfl

mutual

theorem Link.spell_fragments : (link : Link) → Fragment.spell link.fragments = link.body
  | .condition _ c => by
    rw [Link.fragments, Link.body]
    exact Fragment.spell_singleton _
  | .group _ links => by
    rw [Link.fragments, Link.body, ← List.singleton_append, Fragment.spell_append, Fragment.spell_append,
      Fragment.spell_singleton, Fragment.spell_singleton, spell_linksFragments true links]
    rfl

/-- The text of a tree is that of its fragments. -/
theorem spell_linksFragments (atStart : Bool) : (links : List Link) →
    Fragment.spell (linksFragments atStart links) = linksText atStart links
  | [] => rfl
  | link :: rest => by
    rw [linksFragments, linksText, Fragment.spell_append, Fragment.spell_append, spell_joint,
      Link.spell_fragments link, spell_linksFragments false rest]

end

/-- A link at the end writes its joint if there is a link before it. -/
theorem linksFragments_concat (atStart : Bool) (links : List Link) (link : Link) :
    linksFragments atStart (links ++ [link]) = linksFragments atStart links ++
      (if atStart && links.isEmpty then [] else [.joint link.joint]) ++ link.fragments := by
  induction links generalizing atStart with
  | nil => cases atStart <;> simp [linksFragments]
  | cons first rest ih =>
    rw [List.cons_append, linksFragments, linksFragments, ih false]
    simp

/-! ### Clauses under way -/

namespace Clause

/-- The fragments of open groups, the innermost first; a group at the beginning drops its joint. -/
def openFragments (atStart : Bool) : List OpenGroup → List Fragment
  | [] => []
  | g :: outer =>
    openFragments atStart outer ++ (if atStart && outer.isEmpty then [] else [.joint g.joint]) ++
      .opening :: linksFragments true g.links

/-- The fragments of a clause under way, of which the parentheses of open groups are not closed. -/
def fragments (w : Clause) : List Fragment :=
  linksFragments true w.links ++ openFragments w.links.isEmpty w.groups

/-- A clause whose open groups all have their first condition. -/
def Begun (w : Clause) : Prop :=
  ∀ g ∈ w.groups, g.links ≠ []

/-- A clause that has the fragments of another one and then the given ones. -/
structure Extends (w w' : Clause) (added : List Fragment) : Prop where
  begun : w'.Begun
  columns_eq : w'.columns = w.columns
  isEmpty_eq : w'.isEmpty = false
  fragments_eq : w'.fragments = w.fragments ++ added

/-- A link that is put into a clause is written behind everything else, whatever the depth is at which it is put. -/
theorem Begun.extends_push {w : Clause} (hw : w.Begun) (link : Link) :
    w.Extends (w.push link) ((if w.isEmpty then [] else [.joint link.joint]) ++ link.fragments) := by
  unfold push
  cases hgroups : w.groups with
  | nil =>
    refine ⟨by simp [Begun], rfl, by simp [isEmpty], ?_⟩
    simp [fragments, isEmpty, hgroups, openFragments, linksFragments_concat]
  | cons g outer =>
    have hg : g.links ≠ [] := hw g (hgroups ▸ List.mem_cons_self ..)
    refine ⟨?_, rfl, by simp [isEmpty], ?_⟩
    · intro g' hg'
      rcases List.mem_cons.mp hg' with rfl | hg'
      · exact List.append_ne_nil_of_left_ne_nil hg _
      · exact hw g' (hgroups ▸ List.mem_cons_of_mem g hg')
    · simp [fragments, isEmpty, hgroups, openFragments, linksFragments_concat, hg]

theorem Begun.extends_beginGroup {w : Clause} (hw : w.Begun) (joint : Joint) (c : Condition) :
    w.Extends { w with groups := ⟨joint, [.condition .initial c]⟩ :: w.groups }
      ((if w.isEmpty then [] else [.joint joint]) ++ [.opening, .condition c]) := by
  refine ⟨?_, rfl, by simp [isEmpty], ?_⟩
  · intro g hg
    rcases List.mem_cons.mp hg with rfl | hg
    · exact List.cons_ne_nil _ _
    · exact hw g hg
  · simp [fragments, isEmpty, openFragments, linksFragments, Link.fragments]

/-- A group that ends is written already, but for its second parenthesis. -/
theorem Begun.extends_endGroup {w : Clause} (hw : w.Begun) {g : OpenGroup} {outer : List OpenGroup}
    (h : w.groups = g :: outer) :
    w.Extends (({ w with groups := outer } : Clause).push (.group g.joint g.links)) [.closing] := by
  have houter : ({ w with groups := outer } : Clause).Begun := fun g' hg' => hw g' (h ▸ List.mem_cons_of_mem g hg')
  have hpush := houter.extends_push (.group g.joint g.links)
  refine ⟨hpush.begun, hpush.columns_eq, hpush.isEmpty_eq, ?_⟩
  rw [hpush.fragments_eq]
  simp [fragments, isEmpty, h, openFragments, Link.fragments, Link.joint]

/-- A step puts its fragments behind those of the clause. -/
theorem Begun.extends_of_makes {w w' : Clause} {s : Step} (hw : w.Begun) (h : w.Makes s w') :
    ∃ own, s.fragments w.columns = .ok own ∧ w.Extends w' ((if w.isEmpty then [] else s.joints) ++ own) := by
  cases h with
  | condition hc => exact ⟨_, map_eq_ok_iff.mpr ⟨_, hc, rfl⟩, hw.extends_push _⟩
  | beginGroup hc => exact ⟨_, map_eq_ok_iff.mpr ⟨_, hc, rfl⟩, hw.extends_beginGroup _ _⟩
  | endGroup hgroups =>
    have hend := hw.extends_endGroup hgroups
    refine ⟨_, rfl, ?_⟩
    cases w.isEmpty <;> exact hend

/-- The fragments of a run are those of the clause and then those of the steps. -/
theorem Begun.fragments_run {w : Clause} {steps : List Step} (hw : w.Begun) (h : (w.run steps).error? = none) :
    ∃ added, stepsFragments w.columns w.isEmpty steps = .ok added ∧
      (w.run steps).fragments = w.fragments ++ added := by
  induction steps generalizing w with
  | nil => exact ⟨[], rfl, (List.append_nil _).symm⟩
  | cons s rest ih =>
    have hrun : w.run (s :: rest) = (w.step s).run rest := rfl
    rw [hrun] at h ⊢
    have hstep : (w.step s).error? = none := by
      -- a failure would still be there at the end
      cases herror : (w.step s).error? with
      | none => rfl
      | some err =>
        rw [run_of_error (by rw [herror]; rfl), herror] at h
        cases h
    obtain ⟨own, hown, hextends⟩ := hw.extends_of_makes (makes_step hstep)
    obtain ⟨others, hothers, hfragments⟩ := ih hextends.begun h
    rw [hextends.columns_eq, hextends.isEmpty_eq] at hothers
    refine ⟨(if w.isEmpty then [] else s.joints) ++ own ++ others, ?_, ?_⟩
    · rw [stepsFragments, hown, hothers]
      rfl
    · rw [hfragments, hextends.fragments_eq, List.append_assoc]

/-- The tree of a clause with a text has the fragments of the steps. -/
theorem stepsFragments_of_toText {columns : List Column} {steps : List Step} {t : Text}
    (h : (({ columns } : Clause).run steps).toText = .ok t) :
    stepsFragments columns true steps = .ok (linksFragments true (({ columns } : Clause).run steps).links) := by
  obtain ⟨herror, hgroups, -⟩ := toText_eq_ok_iff.mp h
  have hempty : ({ columns } : Clause).Begun := by
    intro g hg
    cases hg
  obtain ⟨added, hadded, hfragments⟩ := hempty.fragments_run herror
  have hlinks : linksFragments true (({ columns } : Clause).run steps).links = added := by
    simpa [fragments, hgroups, openFragments, linksFragments] using hfragments
  rw [hlinks]
  exact hadded

end Clause

/-! ### The text of a run -/

/-- No step ends a group that was not begun, and no group is left open. -/
structure Step.Balanced (steps : List Step) : Prop where
  begun : ∀ n, 0 ≤ balance (steps.take n)
  ended : balance steps = 0

namespace Step

private theorem exists_fragments_of_mem {columns : List Column} {atStart : Bool} {steps : List Step}
    {all : List Fragment} (h : stepsFragments columns atStart steps = .ok all) {s : Step} (hs : s ∈ steps) :
    ∃ own, s.fragments columns = .ok own := by
  induction steps generalizing atStart all with
  | nil => cases hs
  | cons first rest ih =>
    obtain ⟨own, hown, hothers⟩ := bind_eq_ok_iff.mp h
    obtain ⟨others, hothers, -⟩ := bind_eq_ok_iff.mp hothers
    rcases List.mem_cons.mp hs with rfl | hs
    · exact ⟨own, hown⟩
    · exact ih hothers hs

/-- A step that is written fails only if it ends a group that was not begun. -/
private theorem Balanced.fault?_eq_none {columns : List Column} {steps : List Step} (hsteps : Balanced steps) {i : Nat}
    {s : Step} (hs : steps[i]? = some s) {own : List Fragment} (hown : s.fragments columns = .ok own) :
    s.fault? (steps.take i) = none := by
  have hmade {column : Text} {comparison : Comparison} {value? : Option Value} {f : Condition → List Fragment}
      (h : (({ columns } : Clause).conditionOf column comparison value?).map f = .ok own) :
      comparison.fault? column value? = none := by
    obtain ⟨c, hc, -⟩ := map_eq_ok_iff.mp h
    rw [Clause.conditionOf] at hc
    rw [← Condition.failure?_make, hc]
    rfl
  cases s with
  | condition joint column comparison value? => exact hmade hown
  | beginGroup joint column comparison value? => exact hmade hown
  | endGroup =>
    obtain ⟨hi, hs⟩ := List.getElem?_eq_some_iff.mp hs
    have hafter := hsteps.begun (i + 1)
    rw [← List.take_append_getElem hi, hs, balance_concat] at hafter
    simp only [isBegin, isEnd, if_true, Bool.false_eq_true, if_false] at hafter
    rw [fault?, if_neg (by omega)]

end Step

namespace Clause

variable {columns : List Column} {steps : List Step} {t : Text}

private theorem stepsText_of_toText (h : (({ columns } : Clause).run steps).toText = .ok t) :
    stepsText columns steps = .ok t := by
  obtain ⟨-, -, rfl⟩ := toText_eq_ok_iff.mp h
  rw [← spell_linksFragments]
  exact map_eq_ok_iff.mpr ⟨_, stepsFragments_of_toText h, rfl⟩

private theorem balanced_of_toText (h : (({ columns } : Clause).run steps).toText = .ok t) : Step.Balanced steps := by
  rcases run_decided columns steps with ⟨i, err, -, herror, -⟩ | ⟨-, hsound, hrun⟩
  · rw [herror] at h
    cases h
  · have hbegun (n : Nat) : 0 ≤ Step.balance (steps.take n) := by
      rw [← (hsound n).openGroups_eq]
      exact Int.natCast_nonneg _
    have hended : ¬0 < Step.balance steps := by
      intro hopen
      rw [hrun, if_pos hopen] at h
      cases h
    have hall := hbegun steps.length
    rw [List.take_length] at hall
    exact ⟨hbegun, by omega⟩

private theorem toText_of_balanced (hbalanced : Step.Balanced steps) (htext : stepsText columns steps = .ok t) :
    (({ columns } : Clause).run steps).toText = .ok t := by
  rcases run_decided columns steps with ⟨i, err, hfirst, -⟩ | ⟨-, -, hrun⟩
  · -- a step that fails ends a group too many or cannot be written
    obtain ⟨s, hs, hfault⟩ := hfirst.fails
    obtain ⟨all, hall, -⟩ := map_eq_ok_iff.mp htext
    obtain ⟨own, hown⟩ := Step.exists_fragments_of_mem hall (List.mem_of_getElem? hs)
    rw [hbalanced.fault?_eq_none hs hown] at hfault
    cases hfault
  · rw [if_neg (by rw [hbalanced.ended]; decide)] at hrun
    rw [stepsText_of_toText hrun] at htext
    rw [hrun, Except.ok.inj htext]

/-- The text of a clause is what its steps write one after the other, and there is one if every condition can be made
and the groups are balanced. -/
theorem toText_run_eq_ok_iff (columns : List Column) (steps : List Step) (t : Text) :
    (({ columns } : Clause).run steps).toText = .ok t ↔ Step.Balanced steps ∧ stepsText columns steps = .ok t := by
  constructor
  · intro h
    exact ⟨balanced_of_toText h, stepsText_of_toText h⟩
  · rintro ⟨hbalanced, htext⟩
    exact toText_of_balanced hbalanced htext

end Clause

/-- Of two groups that begin a clause, the outer one drops its joint. -/
example : stepsText []
    [.beginGroup .or "a".toList .equals (some (.int 1)), .beginGroup .and "b".toList .isNull none, .endGroup, .endGroup,
      .condition .or "c".toList .equals (some (.int 2))] =
    .ok "([a] = 1 AND ([b] IS NULL)) OR [c] = 2".toList := by rfl

end EntityStore
