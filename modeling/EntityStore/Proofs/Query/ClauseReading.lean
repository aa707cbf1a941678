import EntityStore.Access.Repository
import EntityStore.Proofs.Query.ClauseFailure
import EntityStore.Proofs.Query.ItemReading

/-!
# Clauses are read back as they were built

The text of a clause is the written form of the tree that its links are (`Link.item?`), and reading the text returns
that tree (`Repository.readClause?_clause`).  A name or a value can therefore neither end the token that it stands in
nor change the tree, whatever its characters are.

The links of a clause under way are read as proper items after each step (`Clause.Reads.step`).  A condition is read
as a test, except that a list in several batches is read as the group of its batches and an empty list as a constant.
-/

namespace EntityStore

/-! ### The tree of a clause -/

/-- The comparison with one batch of literals, as it is read. -/
def batchItem (column : Text) (textCast negated : Bool) (joint : Joint) (batch : List Literal) : Item :=
  .test joint column textCast (if negated then .isNotIn else .isIn) batch

/-- A membership in batches of literals, as it is read. -/
def membershipItem (joint : Joint) (column : Text) (textCast negated : Bool) : List (List Literal) → Item
  | [] => .constant joint negated
  | [batch] => batchItem column textCast negated joint batch
  | first :: others =>
    .group joint (batchItem column textCast negated .initial first ::
      others.map (batchItem column textCast negated (if negated then .and else .or)))

/-- What a condition is read as. -/
def Condition.item? (joint : Joint) (c : Condition) : Option Item :=
  let test (operands : List Literal) : Item := .test joint c.column c.textCast c.comparison operands
  match c.value? with
  | none => some (test [])
  | some v =>
    match c.comparison with
    | .like | .notLike => v.toText?.map fun t => test [.string ('%' :: t ++ ['%'])]
    | .isIn => v.tokenBatches?.map (membershipItem joint c.column c.textCast false)
    | .isNotIn => v.tokenBatches?.map (membershipItem joint c.column c.textCast true)
    | _ => v.token?.map fun l => test [l]

mutual

/-- What a link is read as. -/
def Link.item? : Link → Option Item
  | .condition joint c => c.item? joint
  | .group joint links => (linkItems? links).map (.group joint)

/-- What links in order are read as. -/
def linkItems? : List Link → Option (List Item)
  | [] => some []
  | link :: rest => do
    let item ← link.item?
    let items ← linkItems? rest
    some (item :: items)

end

/-! ### Conditions -/

theorem spell_comparandTokens (column : Text) (textCast : Bool) :
    Token.spell (comparandTokens column textCast) = comparand column textCast := by
  cases textCast <;> simp [comparandTokens, comparand, Token.enclose, Token.text]

/-- The link or condition of the given text is read as the item. -/
structure ReadsAs (item : Item) (joint : Joint) (text : Text) : Prop where
  joint_eq : item.joint = joint
  isProper : item.isProper = true
  spell_eq : Token.spell item.tokens = text

private theorem readsAs_test (joint : Joint) (column : Text) (textCast : Bool) {comparison : Comparison}
    {operands : List Literal} (h : comparison.takes operands = true) :
    ReadsAs (.test joint column textCast comparison operands) joint
      (comparand column textCast ++ ' ' :: comparison.operator ++
        Token.spell (operandTokens comparison operands)) := by
  refine ⟨rfl, by rw [Item.isProper, h], ?_⟩
  simp [Item.tokens, spell_comparandTokens, Token.text]

/-- The comparison with one batch. -/
private theorem readsAs_batch (joint : Joint) (column : Text) (textCast negated : Bool) {batch : List Literal}
    (h : batch ≠ []) :
    ReadsAs (batchItem column textCast negated joint batch) joint
      (batchText (comparand column textCast)
        (if negated then Comparison.isNotIn.operator else Comparison.isIn.operator)
        (Token.spell (Literal.listTokens batch))) := by
  have htakes : (if negated then Comparison.isNotIn else .isIn).takes batch = true := by
    cases negated <;> simp [Comparison.takes, Comparison.isNullCheck, Comparison.isMembership, h]
  have htest := readsAs_test joint column textCast htakes
  refine ⟨rfl, htest.isProper, htest.spell_eq.trans ?_⟩
  cases negated <;> simp [batchText, operandTokens, Comparison.isNullCheck, Comparison.isMembership,
    Token.spell_enclose, Token.text]

private theorem itemsProper_map {α : Type} {f : α → Item} {as : List α}
    (h : ∀ a ∈ as, (f a).joint ≠ .initial ∧ (f a).isProper = true) : itemsProper false (as.map f) = true := by
  induction as with
  | nil => rfl
  | cons a as ih =>
    obtain ⟨hjoint, hproper⟩ := h a (List.mem_cons_self ..)
    rw [List.map_cons, itemsProper, hproper, ih fun b hb => h b (List.mem_cons_of_mem a hb)]
    simpa using hjoint

private theorem append_spell_itemsTokens {α : Type} {joint : Joint} {f : α → Item} {g : α → Text} {as : List α}
    (hjoint : ∀ a ∈ as, (f a).joint = joint) (hspell : ∀ a ∈ as, Token.spell (f a).tokens = g a) (t : Text) :
    t ++ Token.spell (itemsTokens false (as.map f)) = Text.joinWith joint.separator (t :: as.map g) := by
  induction as generalizing t with
  | nil => simp [itemsTokens, Text.joinWith]
  | cons a as ih =>
    have hrest := ih (fun b hb => hjoint b (List.mem_cons_of_mem a hb))
      (fun b hb => hspell b (List.mem_cons_of_mem a hb)) (g a)
    rw [List.map_cons, List.map_cons, itemsTokens, Text.joinWith, ← hrest, hjoint a (List.mem_cons_self ..),
      Token.spell_append, Token.spell_append, hspell a (List.mem_cons_self ..)]
    simp

/-- Batches with a joint between them are read as a group. -/
private theorem readsAs_group {α : Type} (joint between : Joint) (hbetween : between ≠ .initial)
    {f : Joint → α → Item} {g : α → Text} {first : α} {others : List α}
    (h : ∀ joint, ∀ a ∈ first :: others, ReadsAs (f joint a) joint (g a)) :
    ReadsAs (.group joint (f .initial first :: others.map (f between))) joint
      ('(' :: Text.joinWith between.separator ((first :: others).map g) ++ [')']) := by
  have hfirst := h .initial first (List.mem_cons_self ..)
  have hothers (a : α) (ha : a ∈ others) := h between a (List.mem_cons_of_mem first ha)
  have hproper := itemsProper_map fun a ha =>
    ⟨by rw [(hothers a ha).joint_eq]; exact hbetween, (hothers a ha).isProper⟩
  have hspell := append_spell_itemsTokens (fun a ha => (hothers a ha).joint_eq)
    (fun a ha => (hothers a ha).spell_eq) (g first)
  refine ⟨rfl, ?_, ?_⟩
  · rw [Item.isProper, itemsProper, hfirst.joint_eq, hfirst.isProper, hproper]
    rfl
  · rw [Item.tokens, Token.spell_enclose, itemsTokens, List.map_cons, ← hspell, ← hfirst.spell_eq]
    simp

private theorem readsAs_membership (joint : Joint) (column : Text) (textCast negated : Bool)
    {batches : List (List Literal)} (h : ∀ batch ∈ batches, batch ≠ []) :
    ReadsAs (membershipItem joint column textCast negated batches) joint
      (batchesText (comparand column textCast) negated
        (batches.map fun batch => Token.spell (Literal.listTokens batch))) := by
  have hbatch (joint : Joint) (batch : List Literal) (hmem : batch ∈ batches) :=
    readsAs_batch joint column textCast negated (h batch hmem)
  match batches with
  | [] => exact ⟨rfl, rfl, by cases negated <;> rfl⟩
  | [batch] => exact hbatch joint batch (List.mem_singleton_self batch)
  | first :: second :: rest =>
    -- a value is in one of several batches, or outside of all of them
    have hgroup := readsAs_group joint (if negated then .and else .or)
      (by cases negated <;> decide) hbatch
    refine ⟨hgroup.joint_eq, hgroup.isProper, hgroup.spell_eq.trans ?_⟩
    cases negated <;> simp [batchesText, Joint.separator, Function.comp_def]

/-- The value that a condition works with: none if it asks for null, otherwise one. -/
private theorem operand_eq_ok {column : Text} {comparison : Comparison} {value? used : Option Value}
    (h : operand column comparison value? = .ok used) : used.isNone = comparison.isNullCheck := by
  unfold operand at h
  split at h
  · next hnull => rw [hnull, ← Except.ok.inj h]; rfl
  · next hnull =>
    split at h
    · simp at h
    · split at h
      · simp at h
      · rw [← Except.ok.inj h]
        simpa using hnull

/-- A scalar comparison with one literal. -/
private theorem readsAs_scalar (joint : Joint) (column : Text) (textCast : Bool) {comparison : Comparison}
    (hnull : comparison.isNullCheck = false) (hmember : comparison.isMembership = false) (l : Literal) :
    ReadsAs (.test joint column textCast comparison [l]) joint
      (comparand column textCast ++ ' ' :: comparison.operator ++ ' ' :: l.text) := by
  have htakes : comparison.takes [l] = true := by simp [Comparison.takes, hnull, hmember]
  have htest := readsAs_test joint column textCast htakes
  refine ⟨rfl, htest.isProper, htest.spell_eq.trans ?_⟩
  simp [operandTokens, hnull, hmember, Literal.listTokens, Literal.spell_tokens, Token.text]

/-- A pattern of any text around which wildcards stand. -/
private theorem readsAs_pattern (joint : Joint) (column : Text) (textCast : Bool) {comparison : Comparison}
    (hnull : comparison.isNullCheck = false) (hmember : comparison.isMembership = false) (l : Literal) :
    ReadsAs (.test joint column textCast comparison [.string ('%' :: l.content ++ ['%'])]) joint
      (comparand column textCast ++ ' ' :: comparison.operator ++ " '%".toList ++ Text.dropQuotes l.text ++
        "%'".toList) := by
  have hscalar := readsAs_scalar joint column textCast hnull hmember (.string ('%' :: l.content ++ ['%']))
  refine ⟨rfl, hscalar.isProper, hscalar.spell_eq.trans ?_⟩
  rw [Literal.text, l.quote_wildcards]
  simp

/-- What a condition with a value is read as. -/
private theorem exists_readsAs_of_conditionText {column : Text} {comparison : Comparison} {v : Value}
    {textCast : Bool} {sql : Text} (joint : Joint) (hnull : comparison.isNullCheck = false)
    (h : conditionText column comparison (some v) textCast = .ok sql) :
    ∃ item, Condition.item? joint ⟨column, comparison, some v, textCast, sql, h⟩ = some item ∧
      ReadsAs item joint sql := by
  cases comparison with
  | isNull => simp [Comparison.isNullCheck] at hnull
  | isNotNull => simp [Comparison.isNullCheck] at hnull
  | like =>
    obtain ⟨l, hl, rfl⟩ := Value.exists_token?_of_map_literal h
    exact ⟨_, by simp [Condition.item?, Value.toText?_of_token? hl], readsAs_pattern joint column textCast rfl rfl l⟩
  | notLike =>
    obtain ⟨l, hl, rfl⟩ := Value.exists_token?_of_map_literal h
    exact ⟨_, by simp [Condition.item?, Value.toText?_of_token? hl], readsAs_pattern joint column textCast rfl rfl l⟩
  | isIn =>
    obtain ⟨batches, hbatches, rfl⟩ := map_eq_ok_iff.mp h
    obtain ⟨literals, hliterals, hne, rfl⟩ := Value.exists_tokenBatches hbatches
    exact ⟨_, by simp [Condition.item?, hliterals], readsAs_membership joint column textCast false hne⟩
  | isNotIn =>
    obtain ⟨batches, hbatches, rfl⟩ := map_eq_ok_iff.mp h
    obtain ⟨literals, hliterals, hne, rfl⟩ := Value.exists_tokenBatches hbatches
    exact ⟨_, by simp [Condition.item?, hliterals], readsAs_membership joint column textCast true hne⟩
  | _ =>
    obtain ⟨l, hl, rfl⟩ := Value.exists_token?_of_map_literal h
    exact ⟨_, by simp [Condition.item?, hl], readsAs_scalar joint column textCast rfl rfl l⟩

/-- Every condition that can be made is read as an item. -/
theorem exists_readsAs_of_make {column : Text} {comparison : Comparison} {value? : Option Value}
    {textCast : Bool} {c : Condition} (joint : Joint) (h : Condition.make column comparison value? textCast = .ok c) :
    ∃ item, c.item? joint = some item ∧ ReadsAs item joint c.sql := by
  unfold Condition.make at h
  split at h
  · simp at h
  · next used hused =>
    split at h
    · simp at h
    · next sql hsql =>
      obtain rfl := Except.ok.inj h
      have hnull := operand_eq_ok hused
      cases used with
      | some v => exact exists_readsAs_of_conditionText joint (by simpa using hnull) hsql
      | none =>
        -- only comparisons with null are left, and they take no operand
        have hnull' : comparison.isNullCheck = true := by simpa using hnull
        have htakes : comparison.takes [] = true := by simp [Comparison.takes, hnull']
        have htest := readsAs_test joint column textCast htakes
        refine ⟨_, rfl, rfl, htest.isProper, htest.spell_eq.trans ?_⟩
        obtain rfl := Except.ok.inj hsql
        simp [operandTokens, hnull']

/-- The text of a condition is the text of a clause with this one item. -/
theorem Condition.exists_readClause?_sql {column : Text} {comparison : Comparison} {value? : Option Value}
    {textCast : Bool} {c : Condition} (h : make column comparison value? textCast = .ok c) :
    ∃ item, c.item? .initial = some item ∧ readClause? c.sql = some [item] := by
  obtain ⟨item, hitem, hreads⟩ := exists_readsAs_of_make .initial h
  have hproper : itemsProper true [item] = true := by simp [itemsProper, hreads.joint_eq, hreads.isProper]
  have htext : clauseText [item] = c.sql := by simp [clauseText, itemsTokens, hreads.spell_eq]
  refine ⟨item, hitem, ?_⟩
  rw [← htext, readClause?_clauseText hproper]

/-! ### Clauses under way -/

/-- Links are read as proper items whose written form is the text of the links. -/
def LinksRead (links : List Link) : Prop :=
  ∃ items, linkItems? links = some items ∧ itemsProper true items = true ∧
    Token.spell (itemsTokens true items) = linksText true links

/-- A link is read as a proper item. -/
def LinkReads (link : Link) : Prop :=
  ∃ item, link.item? = some item ∧ ReadsAs item link.joint link.body

private theorem linkItems?_append (links others : List Link) :
    linkItems? (links ++ others) =
      (linkItems? links).bind fun items => (linkItems? others).map fun more => items ++ more := by
  induction links with
  | nil => simp [linkItems?]
  | cons link links ih =>
    simp only [List.cons_append, linkItems?, ih]
    cases link.item? <;> cases linkItems? links <;> cases linkItems? others <;> rfl

private theorem linksText_append (atStart : Bool) {links : List Link} (hne : links ≠ []) (others : List Link) :
    linksText atStart (links ++ others) = linksText atStart links ++ linksText false others := by
  have hfollowing (links : List Link) :
      linksText false (links ++ others) = linksText false links ++ linksText false others := by
    induction links with
    | nil => rfl
    | cons link links ih => simp only [List.cons_append, linksText, ih, List.append_assoc]
  cases links with
  | nil => exact absurd rfl hne
  | cons link links => simp only [List.cons_append, linksText, hfollowing, List.append_assoc]

private theorem itemsTokens_append (atStart : Bool) {items : List Item} (hne : items ≠ []) (others : List Item) :
    itemsTokens atStart (items ++ others) = itemsTokens atStart items ++ itemsTokens false others := by
  have hfollowing (items : List Item) :
      itemsTokens false (items ++ others) = itemsTokens false items ++ itemsTokens false others := by
    induction items with
    | nil => rfl
    | cons item items ih => simp only [List.cons_append, itemsTokens, ih, List.append_assoc]
  cases items with
  | nil => exact absurd rfl hne
  | cons item items => simp only [List.cons_append, itemsTokens, hfollowing, List.append_assoc]

private theorem itemsProper_append (atStart : Bool) {items : List Item} (hne : items ≠ []) (others : List Item) :
    itemsProper atStart (items ++ others) = (itemsProper atStart items && itemsProper false others) := by
  have hfollowing (items : List Item) :
      itemsProper false (items ++ others) = (itemsProper false items && itemsProper false others) := by
    induction items with
    | nil => rfl
    | cons item items ih => simp only [List.cons_append, itemsProper, ih, Bool.and_assoc]
  cases items with
  | nil => exact absurd rfl hne
  | cons item items => simp only [List.cons_append, itemsProper, hfollowing, Bool.and_assoc]

private theorem linksRead_singleton {link : Link} (hjoint : link.joint = .initial) (h : LinkReads link) :
    LinksRead [link] := by
  obtain ⟨item, hitem, hreads⟩ := h
  refine ⟨[item], by simp [linkItems?, hitem], ?_, ?_⟩
  · simp [itemsProper, hreads.joint_eq, hjoint, hreads.isProper]
  · simp [itemsTokens, linksText, hreads.spell_eq]

private theorem LinksRead.concat {links : List Link} {link : Link} (hlinks : LinksRead links)
    (hjoint : link.joint ≠ .initial) (hlink : LinkReads link) : LinksRead (links ++ [link]) := by
  obtain ⟨items, hitems, hproper, hspell⟩ := hlinks
  obtain ⟨item, hitem, hreads⟩ := hlink
  -- nothing can follow at the start of a group, where the first joint is left out
  have hne : items ≠ [] := by
    rintro rfl
    simp [itemsProper] at hproper
  have hlinksne : links ≠ [] := by
    rintro rfl
    exact hne (Option.some.inj hitems).symm
  refine ⟨items ++ [item], by simp [linkItems?_append, linkItems?, hitems, hitem], ?_, ?_⟩
  · rw [itemsProper_append true hne, hproper]
    simp [itemsProper, hreads.joint_eq, hjoint, hreads.isProper]
  · rw [itemsTokens_append true hne, linksText_append true hlinksne, Token.spell_append, hspell]
    simp [itemsTokens, linksText, hreads.joint_eq, hreads.spell_eq]

/-- A group is read as the items between its parentheses. -/
private theorem linkReads_group (joint : Joint) {links : List Link} (h : LinksRead links) :
    LinkReads (.group joint links) := by
  obtain ⟨items, hitems, hproper, hspell⟩ := h
  refine ⟨.group joint items, by simp [Link.item?, hitems], rfl, by rw [Item.isProper, hproper], ?_⟩
  rw [Item.tokens, Token.spell_enclose, hspell, Link.body]

/-- Whether a step is joined to what stands before it by AND or OR. -/
def Step.isJoined : Step → Bool
  | .condition joint _ _ _ => joint != .initial
  | .beginGroup joint _ _ _ => joint != .initial
  | .endGroup => true

namespace Clause

/-- What was built of a clause is read as items: its finished links, and those of each group that is still open. -/
structure Reads (w : Clause) : Prop where
  links : LinksRead w.links
  groups : ∀ g ∈ w.groups, g.joint ≠ .initial ∧ LinksRead g.links

private theorem linkReads_condition {w : Clause} {column : Text} {comparison : Comparison} {value? : Option Value}
    {c : Condition} (joint : Joint) (h : w.conditionOf column comparison value? = .ok c) :
    LinkReads (.condition joint c) := by
  obtain ⟨item, hitem, hreads⟩ := exists_readsAs_of_make joint h
  exact ⟨item, by rw [Link.item?, hitem], hreads⟩

private theorem Reads.push {w : Clause} {link : Link} (hw : w.Reads) (hjoint : link.joint ≠ .initial)
    (hlink : LinkReads link) : (w.push link).Reads := by
  unfold Clause.push
  split
  · exact ⟨hw.links.concat hjoint hlink, hw.groups⟩
  · -- the link goes into the innermost open group
    next g outer hgroups =>
    have hgroup := hw.groups g (hgroups ▸ List.mem_cons_self ..)
    refine ⟨hw.links, fun g' hg' => ?_⟩
    rcases List.mem_cons.mp hg' with rfl | hg'
    · exact ⟨hgroup.1, hgroup.2.concat hjoint hlink⟩
    · exact hw.groups g' (hgroups ▸ List.mem_cons_of_mem g hg')

/-- A step keeps that what was built is read as items. -/
theorem Reads.step {w : Clause} {s : Step} (hw : w.Reads) (hs : s.isJoined = true) : (w.step s).Reads := by
  unfold Clause.step
  split
  · exact hw
  · cases s with
    | condition joint column comparison value? =>
      have hjoint : joint ≠ .initial := by simpa [Step.isJoined] using hs
      dsimp only
      split
      · next c hc => exact hw.push hjoint (linkReads_condition joint hc)
      · exact ⟨hw.links, hw.groups⟩
    | beginGroup joint column comparison value? =>
      have hjoint : joint ≠ .initial := by simpa [Step.isJoined] using hs
      dsimp only
      split
      · next c hc =>
        refine ⟨hw.links, fun g hg => ?_⟩
        rcases List.mem_cons.mp hg with rfl | hg
        · exact ⟨hjoint, linksRead_singleton rfl (linkReads_condition .initial hc)⟩
        · exact hw.groups g hg
      · exact ⟨hw.links, hw.groups⟩
    | endGroup =>
      dsimp only
      split
      · -- the closed group is one link of what is around it
        next g outer hgroups =>
        have hgroup := hw.groups g (hgroups ▸ List.mem_cons_self ..)
        have houter : ({ w with groups := outer } : Clause).Reads :=
          ⟨hw.links, fun g' hg' => hw.groups g' (hgroups ▸ List.mem_cons_of_mem g hg')⟩
        exact houter.push hgroup.1 (linkReads_group g.joint hgroup.2)
      · exact ⟨hw.links, hw.groups⟩

/-- However many steps are made, what was built is read as items. -/
theorem Reads.run {w : Clause} {steps : List Step} (hw : w.Reads) (hsteps : ∀ s ∈ steps, s.isJoined = true) :
    (w.run steps).Reads := by
  induction steps generalizing w with
  | nil => exact hw
  | cons s steps ih =>
    exact ih (hw.step (hsteps s (List.mem_cons_self ..))) fun s' hs' => hsteps s' (List.mem_cons_of_mem s hs')

/-- The first condition of a clause either fails or is read as an item. -/
private theorem reads_first (columns : List Column) (column : Text) (comparison : Comparison)
    (value? : Option Value) :
    let w := ({ columns } : Clause).step (.condition .initial column comparison value?)
    w.error?.isSome = true ∨ w.Reads := by
  intro w
  cases hc : ({ columns } : Clause).conditionOf column comparison value? with
  | error e => left; simp [w, Clause.step, hc]
  | ok c =>
    right
    have hw : w = { columns, links := [.condition .initial c] } := by simp [w, Clause.step, hc, Clause.push]
    rw [hw]
    exact ⟨linksRead_singleton rfl (linkReads_condition .initial hc), by simp⟩

private theorem eq_of_toText {w : Clause} {t : Text} (h : w.toText = .ok t) :
    w.error? = none ∧ linksText true w.links = t := by
  obtain ⟨herror, -, ht⟩ := toText_eq_ok_iff.mp h
  exact ⟨herror, ht⟩

/-- The text of a clause is the written form of proper items. -/
theorem exists_clauseText (columns : List Column) (column : Text) (comparison : Comparison) (value? : Option Value)
    {steps : List Step} (hsteps : ∀ s ∈ steps, s.isJoined = true) {t : Text}
    (h : (({ columns } : Clause).run (.condition .initial column comparison value? :: steps)).toText = .ok t) :
    ∃ items, itemsProper true items = true ∧ clauseText items = t := by
  obtain ⟨herror, rfl⟩ := eq_of_toText h
  have hrun : ({ columns } : Clause).run (.condition .initial column comparison value? :: steps) =
      (({ columns } : Clause).step (.condition .initial column comparison value?)).run steps := rfl
  rw [hrun] at herror ⊢
  rcases reads_first columns column comparison value? with hfailed | hreads
  · rw [run_of_error hfailed] at herror
    rw [herror] at hfailed
    exact absurd hfailed (by decide)
  · obtain ⟨items, -, hproper, hspell⟩ := (hreads.run hsteps).links
    exact ⟨items, hproper, hspell⟩

end Clause

/-! ### Reading the text of a clause -/

/-- The text of every clause is read as the tree that was built, and no other tree has that text. -/
theorem Repository.readClause?_clause (e : Entity) (column : Text) (comparison : Comparison) (value? : Option Value)
    (steps : List Step) (hsteps : ∀ s ∈ steps, s.isJoined = true) {t : Text}
    (h : (clause e (.condition .initial column comparison value? :: steps)).toText = .ok t) :
    ∃ items, linkItems? (clause e (.condition .initial column comparison value? :: steps)).links = some items ∧
      readClause? t = some items ∧ itemsProper true items = true ∧ clauseText items = t ∧
      ∀ others, itemsProper true others = true → clauseText others = t → others = items := by
  obtain ⟨herror, ht⟩ := Clause.eq_of_toText h
  have hrun : clause e (.condition .initial column comparison value? :: steps) =
      (({ columns := e.columns } : Clause).step (.condition .initial column comparison value?)).run steps := rfl
  rw [hrun] at herror ht ⊢
  rcases Clause.reads_first e.columns column comparison value? with hfailed | hreads
  · -- a failure of the first condition would still be there at the end
    rw [Clause.run_of_error hfailed] at herror
    rw [herror] at hfailed
    exact absurd hfailed (by decide)
  · obtain ⟨items, hitems, hproper, hspell⟩ := (hreads.run hsteps).links
    have htext : clauseText items = t := hspell.trans ht
    refine ⟨items, hitems, ?_, hproper, htext, fun others hothers heq => ?_⟩
    · rw [← htext, readClause?_clauseText hproper]
    · exact clauseText_injective hothers hproper (heq.trans htext.symm)

/-- A name and values full of brackets and quotes, in a clause with a group. -/
theorem Repository.readClause?_clause_hostile :
    ∃ items, readClause? "[a]] = 1] = 'x'' OR (''' OR ([b] IS NULL AND [c] NOT LIKE '%'']%')".toList = some items ∧
      ∀ others, itemsProper true others = true →
        clauseText others = "[a]] = 1] = 'x'' OR (''' OR ([b] IS NULL AND [c] NOT LIKE '%'']%')".toList →
          others = items := by
  obtain ⟨items, -, hread, -, -, hunique⟩ := readClause?_clause ⟨[], [], [], []⟩ "a] = 1".toList .equals
    (some (.string "x' OR ('".toList))
    [.beginGroup .or "b".toList .isNull none, .condition .and "c".toList .notLike (some (.string "']".toList)),
      .endGroup]
    (by decide) (t := "[a]] = 1] = 'x'' OR (''' OR ([b] IS NULL AND [c] NOT LIKE '%'']%')".toList) (by rfl)
  exact ⟨items, hread, hunique⟩

end EntityStore
