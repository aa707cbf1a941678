import EntityStore.Proofs.Query.ClauseReading
import EntityStore.Proofs.Query.ClauseStream

/-!
# Neighbours in a clause

Two conditions or groups that are neighbours on one level of a clause should have AND or OR between them.  In the text
of a clause they have it if and only if all steps but the first are joined by AND or OR
(`Clause.linksJoined_run_iff`).  A step that starts the clause once more is not refused: its condition is written
directly behind what stands there.

A tree and a text leave no choice where the parts of the tree are in the text, since no part begins with a space
(`linksJoined_iff`).
-/

namespace EntityStore

/-! ### Texts of trees -/

mutual

/-- A text of a link in which neighbours on every level have AND or OR between them. -/
inductive Link.Joined : Link → Text → Prop
  | condition (joint : Joint) (c : Condition) : Link.Joined (.condition joint c) c.sql
  | group (joint : Joint) {links : List Link} {t : Text} (h : LinksJoined links t) :
      Link.Joined (.group joint links) ('(' :: t ++ [')'])

/-- A text of links in order, with AND or OR between any two neighbours, also inside the links. -/
inductive LinksJoined : List Link → Text → Prop
  | nil : LinksJoined [] []
  | single {link : Link} {t : Text} (h : link.Joined t) : LinksJoined [link] t
  | cons {link second : Link} {rest : List Link} {t between u : Text} (h : link.Joined t)
      (hbetween : between = " AND ".toList ∨ between = " OR ".toList) (hrest : LinksJoined (second :: rest) u) :
      LinksJoined (link :: second :: rest) (t ++ (between ++ u))

end

private theorem linksText_cons_cons (link second : Link) (rest : List Link) :
    linksText true (link :: second :: rest) =
      link.body ++ (second.joint.separator ++ linksText true (second :: rest)) := by
  simp [linksText]

private theorem mem_linksFragments_cons_cons {fragment : Fragment} {link second : Link} {rest : List Link} :
    fragment ∈ linksFragments true (link :: second :: rest) ↔
      fragment ∈ link.fragments ∨ fragment = .joint second.joint ∨ fragment ∈ linksFragments true (second :: rest) := by
  simp [linksFragments]

private theorem linksFragments_singleton (link : Link) : linksFragments true [link] = link.fragments := by
  simp [linksFragments]

private theorem separator_of_ne_initial {joint : Joint} (h : joint ≠ .initial) :
    joint.separator = " AND ".toList ∨ joint.separator = " OR ".toList := by
  cases joint with
  | initial => exact absurd rfl h
  | and => exact .inl rfl
  | or => exact .inr rfl

mutual

private theorem Link.joined_body : (link : Link) → Fragment.joint .initial ∉ link.fragments → link.Joined link.body
  | .condition joint c, _ => by
    rw [Link.body]
    exact .condition joint c
  | .group joint links, h => by
    have hlinks : Fragment.joint .initial ∉ linksFragments true links := by
      intro hmem
      exact h (by rw [Link.fragments]; exact List.mem_append_left _ (List.mem_cons_of_mem _ hmem))
    rw [Link.body]
    exact .group joint (linksJoined_linksText links hlinks)

private theorem linksJoined_linksText : (links : List Link) → Fragment.joint .initial ∉ linksFragments true links →
    LinksJoined links (linksText true links)
  | [], _ => .nil
  | [link], h => by
    rw [linksFragments_singleton] at h
    have htext : linksText true [link] = link.body := by simp [linksText]
    rw [htext]
    exact .single (Link.joined_body link h)
  | link :: second :: rest, h => by
    rw [mem_linksFragments_cons_cons, not_or, not_or] at h
    obtain ⟨hlink, hjoint, hrest⟩ := h
    have hbetween : second.joint ≠ .initial := by
      intro hinitial
      exact hjoint (by rw [hinitial])
    rw [linksText_cons_cons]
    exact .cons (Link.joined_body link hlink) (separator_of_ne_initial hbetween)
      (linksJoined_linksText (second :: rest) hrest)

end

/-! ### Where the parts of a text are -/

/-- A text that is not empty and does not begin with a space. -/
def BeginsSolid (t : Text) : Prop :=
  ∃ c rest, t = c :: rest ∧ c ≠ ' '

theorem BeginsSolid.append {t : Text} (h : BeginsSolid t) (u : Text) : BeginsSolid (t ++ u) := by
  obtain ⟨c, rest, rfl, hc⟩ := h
  exact ⟨c, rest ++ u, rfl, hc⟩

private theorem beginsSolid_comparand (column : Text) (textCast : Bool) : BeginsSolid (comparand column textCast) := by
  cases textCast with
  | false => exact ⟨'[', _, rfl, by decide⟩
  | true => exact ⟨'C', _, rfl, by decide⟩

private theorem beginsSolid_batchesText (column : Text) (textCast negated : Bool) (batches : List Text) :
    BeginsSolid (batchesText (comparand column textCast) negated batches) := by
  match batches with
  | [] =>
    cases negated with
    | false => exact ⟨'1', _, rfl, by decide⟩
    | true => exact ⟨'1', _, rfl, by decide⟩
  | [batch] =>
    simp only [batchesText, batchText, List.append_assoc]
    exact (beginsSolid_comparand column textCast).append _
  | first :: second :: rest => exact ⟨'(', _, rfl, by decide⟩

theorem Condition.beginsSolid_sql (c : Condition) : BeginsSolid c.sql := by
  obtain ⟨column, comparison, value?, textCast, sql, h⟩ := c
  have hleft (u : Text) : BeginsSolid (comparand column textCast ++ u) :=
    (beginsSolid_comparand column textCast).append u
  cases value? with
  | none =>
    obtain rfl := Except.ok.inj h
    exact hleft _
  | some v =>
    cases comparison with
    | isIn =>
      obtain ⟨batches, -, rfl⟩ := map_eq_ok_iff.mp h
      exact beginsSolid_batchesText column textCast false batches
    | isNotIn =>
      obtain ⟨batches, -, rfl⟩ := map_eq_ok_iff.mp h
      exact beginsSolid_batchesText column textCast true batches
    | like =>
      obtain ⟨t, -, rfl⟩ := map_eq_ok_iff.mp h
      simp only [List.append_assoc]
      exact hleft _
    | notLike =>
      obtain ⟨t, -, rfl⟩ := map_eq_ok_iff.mp h
      simp only [List.append_assoc]
      exact hleft _
    | _ =>
      obtain ⟨t, -, rfl⟩ := map_eq_ok_iff.mp h
      simp only [List.append_assoc]
      exact hleft _

private theorem Link.beginsSolid_body (link : Link) : BeginsSolid link.body := by
  cases link with
  | condition joint c =>
    rw [Link.body]
    exact c.beginsSolid_sql
  | group joint links =>
    rw [Link.body]
    exact ⟨'(', _, rfl, by decide⟩

/-- AND or OR can only be where the text of a tree has it. -/
private theorem eq_separator_of_append {between u t : Text} {joint : Joint}
    (hbetween : between = " AND ".toList ∨ between = " OR ".toList) (ht : BeginsSolid t)
    (h : between ++ u = joint.separator ++ t) : between = joint.separator ∧ joint ≠ .initial := by
  cases joint with
  | initial =>
    -- the text would go on with a space
    obtain ⟨c, rest, rfl, hc⟩ := ht
    rcases hbetween with rfl | rfl
    · exact absurd (List.cons.inj h).1.symm hc
    · exact absurd (List.cons.inj h).1.symm hc
  | and =>
    rcases hbetween with rfl | rfl
    · exact ⟨rfl, by decide⟩
    · cases (List.cons.inj (List.cons.inj h).2).1
  | or =>
    rcases hbetween with rfl | rfl
    · cases (List.cons.inj (List.cons.inj h).2).1
    · exact ⟨rfl, by decide⟩

mutual

/-- A joined text of a link and the text of the link are the same if one text begins with both. -/
private theorem Link.Joined.eq_body : (link : Link) → {t r r' : Text} → link.Joined t → t ++ r = link.body ++ r' →
    t = link.body ∧ Fragment.joint .initial ∉ link.fragments
  | .condition joint c, t, r, r', h, _ => by
    cases h
    rw [Link.body, Link.fragments]
    exact ⟨rfl, by simp⟩
  | .group joint links, t, r, r', h, heq => by
    cases h with
    | group _ hlinks =>
      rw [Link.body, List.append_assoc, List.append_assoc] at heq
      obtain ⟨rfl, hmem⟩ := LinksJoined.eq_linksText links hlinks (List.cons.inj heq).2
      rw [Link.body, Link.fragments]
      exact ⟨rfl, by simpa using hmem⟩

private theorem LinksJoined.eq_linksText : (links : List Link) → {t r r' : Text} → LinksJoined links t →
    t ++ r = linksText true links ++ r' →
    t = linksText true links ∧ Fragment.joint .initial ∉ linksFragments true links
  | [], t, r, r', h, _ => by
    cases h
    exact ⟨rfl, List.not_mem_nil⟩
  | [link], t, r, r', h, heq => by
    have htext : linksText true [link] = link.body := by simp [linksText]
    cases h with
    | single hlink =>
      rw [htext] at heq ⊢
      rw [linksFragments_singleton]
      exact Link.Joined.eq_body link hlink heq
  | link :: second :: rest, t, r, r', h, heq => by
    cases h with
    | cons hlink hbetween hrest =>
      rw [linksText_cons_cons] at heq ⊢
      simp only [List.append_assoc] at heq
      obtain ⟨rfl, hlinkmem⟩ := Link.Joined.eq_body link hlink heq
      -- what comes after the first link begins with AND or OR on the one side
      have hsolid : BeginsSolid (linksText true (second :: rest) ++ r') := by
        rw [linksText, if_pos rfl, List.nil_append, List.append_assoc]
        exact second.beginsSolid_body.append _
      have hafter := List.append_cancel_left heq
      obtain ⟨rfl, hjoint⟩ := eq_separator_of_append hbetween hsolid hafter
      obtain ⟨rfl, hmem⟩ := LinksJoined.eq_linksText (second :: rest) hrest (List.append_cancel_left hafter)
      refine ⟨rfl, ?_⟩
      rw [mem_linksFragments_cons_cons, not_or, not_or]
      refine ⟨hlinkmem, ?_, hmem⟩
      intro hinitial
      exact hjoint (Fragment.joint.inj hinitial).symm

end

/-- Neighbours in the text of a tree have AND or OR between them if no joint that is written is empty. -/
theorem linksJoined_iff (links : List Link) :
    LinksJoined links (linksText true links) ↔ Fragment.joint .initial ∉ linksFragments true links := by
  constructor
  · intro h
    exact (LinksJoined.eq_linksText links h rfl (r := [])).2
  · exact linksJoined_linksText links

/-! ### Steps that start a clause once more -/

namespace Step

private theorem initial_mem_joints_iff (s : Step) : Fragment.joint .initial ∈ s.joints ↔ ¬s.isJoined = true := by
  have hjoint (joint : Joint) :
      Fragment.joint .initial ∈ [Fragment.joint joint] ↔ ¬(joint != .initial) = true := by
    rw [List.mem_singleton, Fragment.joint.injEq, bne_iff_ne, not_not]
    exact eq_comm
  cases s with
  | condition joint column comparison value? => exact hjoint joint
  | beginGroup joint column comparison value? => exact hjoint joint
  | endGroup => simp [joints, isJoined]

private theorem initial_notMem_fragments {columns : List Column} {s : Step} {own : List Fragment}
    (h : s.fragments columns = .ok own) : Fragment.joint .initial ∉ own := by
  cases s with
  | condition joint column comparison value? =>
    obtain ⟨c, -, rfl⟩ := map_eq_ok_iff.mp h
    simp
  | beginGroup joint column comparison value? =>
    obtain ⟨c, -, rfl⟩ := map_eq_ok_iff.mp h
    simp
  | endGroup =>
    obtain rfl := Except.ok.inj h
    simp

end Step

/-- Behind other steps every joint is written. -/
private theorem initial_notMem_stepsFragments_iff {columns : List Column} {steps : List Step} {all : List Fragment}
    (h : stepsFragments columns false steps = .ok all) :
    Fragment.joint .initial ∉ all ↔ ∀ s ∈ steps, s.isJoined = true := by
  induction steps generalizing all with
  | nil =>
    obtain rfl := Except.ok.inj h
    simp
  | cons s rest ih =>
    obtain ⟨own, hown, h⟩ := bind_eq_ok_iff.mp h
    obtain ⟨others, hothers, h⟩ := bind_eq_ok_iff.mp h
    obtain rfl := Except.ok.inj h
    rw [List.forall_mem_cons, ← ih hothers, if_neg (by decide), List.mem_append, List.mem_append, not_or, not_or,
      s.initial_mem_joints_iff, not_not]
    simp [Step.initial_notMem_fragments hown]

namespace Clause

/-- In the text of a clause neighbours have AND or OR between them if and only if no step but the first one starts the
clause. -/
theorem linksJoined_run_iff (columns : List Column) (first : Step) (later : List Step) {t : Text}
    (h : (({ columns } : Clause).run (first :: later)).toText = .ok t) :
    LinksJoined (({ columns } : Clause).run (first :: later)).links t ↔ ∀ s ∈ later, s.isJoined = true := by
  have hall := stepsFragments_of_toText h
  obtain ⟨-, -, rfl⟩ := toText_eq_ok_iff.mp h
  obtain ⟨own, hown, hall⟩ := bind_eq_ok_iff.mp hall
  obtain ⟨others, hothers, hall⟩ := bind_eq_ok_iff.mp hall
  -- the joint of the first step is not written
  have hfragments : own ++ others = linksFragments true (({ columns } : Clause).run (first :: later)).links :=
    Except.ok.inj hall
  rw [linksJoined_iff, ← hfragments, List.mem_append, not_or, initial_notMem_stepsFragments_iff hothers]
  exact and_iff_right (Step.initial_notMem_fragments hown)

/-- Groups in groups, and a pattern that looks like a joint. -/
theorem linksJoined_run_nested :
    let steps : List Step :=
      [.beginGroup .and "a".toList .equals (some (.int 1)), .beginGroup .or "b".toList .isNull none, .endGroup,
        .condition .and "c".toList .like (some (.string " AND ".toList)), .endGroup,
        .condition .or "d".toList .isNotNull none]
    (({ columns := [] } : Clause).run (.condition .initial "x".toList .equals (some (.int 0)) :: steps)).toText =
        .ok "[x] = 0 AND ([a] = 1 OR ([b] IS NULL) AND [c] LIKE '% AND %') OR [d] IS NOT NULL".toList ∧
      LinksJoined (({ columns := [] } : Clause).run
        (.condition .initial "x".toList .equals (some (.int 0)) :: steps)).links
        "[x] = 0 AND ([a] = 1 OR ([b] IS NULL) AND [c] LIKE '% AND %') OR [d] IS NOT NULL".toList := by
  intro steps
  have htext : (({ columns := [] } : Clause).run
      (.condition .initial "x".toList .equals (some (.int 0)) :: steps)).toText =
        .ok "[x] = 0 AND ([a] = 1 OR ([b] IS NULL) AND [c] LIKE '% AND %') OR [d] IS NOT NULL".toList := by rfl
  exact ⟨htext, (linksJoined_run_iff [] _ steps htext).mpr (by decide)⟩

/-- A clause that is started twice records no failure and has nothing between its two conditions. -/
theorem not_linksJoined_startedTwice :
    let w := ({ columns := [] } : Clause).run
      [.condition .initial "a".toList .equals (some (.int 1)), .condition .initial "b".toList .equals (some (.int 2))]
    w.error? = none ∧ w.toText = .ok "[a] = 1[b] = 2".toList ∧ ¬LinksJoined w.links "[a] = 1[b] = 2".toList := by
  intro w
  have htext : w.toText = .ok "[a] = 1[b] = 2".toList := by rfl
  have hlinks : linksText true w.links = "[a] = 1[b] = 2".toList := (toText_eq_ok_iff.mp htext).2.2
  refine ⟨rfl, htext, ?_⟩
  rw [← hlinks, linksJoined_iff, not_not]
  have hsecond : w.links = [.condition .initial ⟨"a".toList, .equals, some (.int 1), false, "[a] = 1".toList, rfl⟩,
      .condition .initial ⟨"b".toList, .equals, some (.int 2), false, "[b] = 2".toList, rfl⟩] := by rfl
  rw [hsecond, mem_linksFragments_cons_cons]
  exact .inr (.inl rfl)

end Clause

end EntityStore
