import EntityStore.Proofs.Query.Item

/-!
# Reading clauses back

The reader of clauses finds every proper tree again from its written form (`readClause?_clauseText`), so that the
written form determines the tree (`clauseText_injective`).

Each part of the grammar has its own lemma: what words its tokens have, and that these words are read as it.  Words
that join items do not occur inside items, which is what makes the split at joints find the items.
-/

namespace EntityStore

/-! ### The words of the parts -/

private theorem text?_append_of_none {p : Piece (Option (List Item))} (h : p.char? = none) (ps qs : ClauseWord) :
    Piece.text? (ps ++ p :: qs) = none := by
  rw [Piece.text?, List.mapM_append]
  cases hps : ps.mapM Piece.char? <;> simp [h]

private theorem joint?_of_text?_none {w : ClauseWord} (h : Piece.text? w = none) : joint? w = none := by
  simp [joint?, h]

private theorem joint?_ofText {t : Text} (hand : t ≠ "AND".toList) (hor : t ≠ "OR".toList) :
    joint? (Piece.ofText t) = none := by
  rw [joint?, Piece.text?_ofText, if_neg (by simpa using hand), if_neg (by simpa using hor)]

private theorem joint?_word (l : Literal) : joint? l.word = none := by
  cases l with
  | string t => rfl
  | number n =>
    refine joint?_ofText ?_ ?_ <;> intro h <;> exact absurd (h ▸ n.isNumeral_text) (by decide)

private theorem texts?_map_ofText (ts : List Text) : texts? (ts.map Piece.ofText) = some ts := by
  induction ts with
  | nil => rfl
  | cons t ts ih =>
    rw [texts?] at ih
    simp [texts?, ih]

private theorem exists_spells_comparandTokens (column : Text) (textCast : Bool) :
    ∃ w, Spells items? (comparandTokens column textCast) [w] ∧ comparand? w = some (column, textCast) ∧
      Piece.text? w = none := by
  have hname : IsWord items? [.name column] [.token (.name column)] := isWord_token rfl
  cases textCast with
  | false => exact ⟨_, hname.spells, rfl, rfl⟩
  | true =>
    have hmax : IsWord items? (Token.chars "MAX".toList) (Piece.ofText "MAX".toList) := isWord_chars (by decide)
    have hvarchar : IsWord items? (Token.chars "NVARCHAR".toList) (Piece.ofText "NVARCHAR".toList) :=
      isWord_chars (by decide)
    have hconvert : IsWord items? (Token.chars "CONVERT".toList) (Piece.ofText "CONVERT".toList) :=
      isWord_chars (by decide)
    have hcomma : IsWord items? [.char ','] [.token (.char ',')] := isWord_token rfl
    have htype := (hvarchar.append hmax.spells.isWord_group).append hcomma
    have hcast := hconvert.append (htype.spells.space hname.spells).isWord_group
    -- a cast ends with a parenthesis, so that it cannot be taken for a joint or an operator
    refine ⟨_, hcast.spells, ?_, text?_append_of_none rfl _ []⟩
    rfl

private theorem spells_operator (comparison : Comparison) :
    Spells items? (Token.chars comparison.operator) (comparison.operatorWords.map Piece.ofText) := by
  have hword {t : Text} (h : isWordText t = true) : Spells items? (Token.chars t) [Piece.ofText t] :=
    (isWord_chars h).spells
  cases comparison with
  | notLike => exact (hword (t := "NOT".toList) (by decide)).space (hword (t := "LIKE".toList) (by decide))
  | isNotIn => exact (hword (t := "NOT".toList) (by decide)).space (hword (t := "IN".toList) (by decide))
  | isNull => exact (hword (t := "IS".toList) (by decide)).space (hword (t := "NULL".toList) (by decide))
  | isNotNull =>
    exact (hword (t := "IS".toList) (by decide)).space
      ((hword (t := "NOT".toList) (by decide)).space (hword (t := "NULL".toList) (by decide)))
  | _ => exact hword (by decide)

private theorem joint?_operatorWords (comparison : Comparison) :
    ∀ w ∈ comparison.operatorWords.map Piece.ofText, joint? w = none := by
  cases comparison <;> simp [Comparison.operatorWords] <;> decide

/-! ### Tests -/

private theorem isNumeral_getLast?_operatorWords (comparison : Comparison) :
    ∀ t ∈ comparison.operatorWords.getLast?, isNumeral t = false := by
  cases comparison <;> simp [Comparison.operatorWords] <;> decide

/-- No operator ends with a numeral. -/
private theorem ofWords?_append_numeral (ts : List Text) (n : Numeral) :
    Comparison.ofWords? (ts ++ [n.text]) = none := by
  refine List.find?_eq_none.mpr fun comparison _ h => ?_
  have hlast := isNumeral_getLast?_operatorWords comparison n.text
  rw [decide_eq_true_eq.mp h, List.getLast?_concat] at hlast
  exact absurd (hlast rfl) (by simp [n.isNumeral_text])

/-- A word that cannot be the end of an operator. -/
private def IsOperand (w : ClauseWord) : Prop :=
  Piece.text? w = none ∨ ∃ n : Numeral, w = Piece.ofText n.text

private theorem ofWords?_texts?_append {w : ClauseWord} (h : IsOperand w) (ts : List Text) :
    (texts? (ts.map Piece.ofText ++ [w])).bind Comparison.ofWords? = none := by
  have htexts := texts?_map_ofText ts
  rw [texts?] at htexts ⊢
  rw [List.mapM_append, htexts]
  rcases h with h | ⟨n, rfl⟩
  · simp [h]
  · simpa using ofWords?_append_numeral ts n

private theorem isOperand_word (l : Literal) : IsOperand l.word := by
  cases l with
  | string t => exact .inl rfl
  | number n => exact .inr ⟨n, rfl⟩

private theorem exists_spells_operands {comparison : Comparison} {operands : List Literal}
    (hnull : comparison.isNullCheck = false) (h : comparison.takes operands = true) :
    ∃ ts w, operandTokens comparison operands = .char ' ' :: ts ∧ Spells items? ts [w] ∧
      operands? comparison w = some operands ∧ joint? w = none ∧ IsOperand w := by
  simp only [Comparison.takes, hnull, Bool.false_eq_true, if_false] at h
  by_cases hmember : comparison.isMembership = true
  · simp only [hmember, if_true] at h
    have hne : operands ≠ [] := by simpa using h
    obtain ⟨ws, hspells, hread⟩ := Literal.spells_listTokens (g := items?) hne
    refine ⟨_, _, by simp only [operandTokens, hnull, hmember, Bool.false_eq_true, if_false, if_true],
      hspells.isWord_group.spells, ?_, rfl, .inl rfl⟩
    simp [operands?, hmember, hread]
  · simp only [hmember, Bool.false_eq_true, if_false] at h
    obtain ⟨l, rfl⟩ := List.length_eq_one_iff.mp (eq_of_beq h)
    refine ⟨_, l.word,
      by simp only [operandTokens, hnull, hmember, Bool.false_eq_true, if_false, Literal.listTokens],
      l.isWord_tokens.spells, ?_, joint?_word l, isOperand_word l⟩
    simp [operands?, hmember, Piece.literal?_word]

private theorem exists_spells_comparison {comparison : Comparison} {operands : List Literal}
    (h : comparison.takes operands = true) :
    ∃ ws, Spells items? (Token.chars comparison.operator ++ operandTokens comparison operands) ws ∧
      comparison? ws = some (comparison, operands) ∧ (∀ w ∈ ws, joint? w = none) ∧ ws ≠ [] := by
  have hop := spells_operator comparison
  have hwords : comparison.operatorWords.map Piece.ofText ≠ ([] : List ClauseWord) := by
    cases comparison <;> simp [Comparison.operatorWords]
  by_cases hnull : comparison.isNullCheck = true
  · have hempty : operands = [] := by
      simp only [Comparison.takes, hnull, if_true] at h
      simpa using h
    refine ⟨_, by simpa [operandTokens, hnull] using hop, ?_, joint?_operatorWords comparison, hwords⟩
    simp [comparison?, texts?_map_ofText, Comparison.ofWords?_operatorWords, hnull, hempty]
  · have hnull' : comparison.isNullCheck = false := by simpa using hnull
    obtain ⟨ts, w, hts, hspells, hread, hjoint, hoperand⟩ := exists_spells_operands hnull' h
    refine ⟨_, hts ▸ hop.space hspells, ?_, ?_, by simp⟩
    · -- the words with the operand are no operator, so the reader leaves the last one out and tries again
      rw [comparison?, ofWords?_texts?_append hoperand, List.dropLast_concat, List.getLast?_concat,
        texts?_map_ofText]
      simp [Comparison.ofWords?_operatorWords, hread, h]
    · intro v hv
      rcases List.mem_append.mp hv with hv | hv
      · exact joint?_operatorWords comparison v hv
      · obtain rfl := List.mem_singleton.mp hv
        exact hjoint

/-! ### Items -/

/-- The word that stands for a joint. -/
private def jointWord : Joint → Text
  | .initial => []
  | .and => "AND".toList
  | .or => "OR".toList

/-- The words of items after the first. -/
private def followingWords (others : List (Joint × List ClauseWord)) : List ClauseWord :=
  others.flatMap fun (joint, ws) => Piece.ofText (jointWord joint) :: ws

private theorem splitAtJoints_append {ws : List ClauseWord} (h : ∀ w ∈ ws, joint? w = none)
    (vs : List ClauseWord) :
    splitAtJoints (ws ++ vs) = (ws ++ (splitAtJoints vs).1, (splitAtJoints vs).2) := by
  induction ws with
  | nil => rfl
  | cons w ws ih =>
    have hw := h w (List.mem_cons_self ..)
    rw [List.cons_append, splitAtJoints, ih fun v hv => h v (List.mem_cons_of_mem w hv), hw]
    rfl

private theorem splitAtJoints_followingWords {others : List (Joint × List ClauseWord)}
    (h : ∀ p ∈ others, p.1 ≠ .initial ∧ ∀ w ∈ p.2, joint? w = none) :
    splitAtJoints (followingWords others) = ([], others) := by
  induction others with
  | nil => rfl
  | cons p others ih =>
    obtain ⟨joint, ws⟩ := p
    obtain ⟨hjoint, hws⟩ := h (joint, ws) (List.mem_cons_self ..)
    have hword : joint? (Piece.ofText (jointWord joint)) = some joint := by
      cases joint with
      | initial => exact absurd rfl hjoint
      | and => rfl
      | or => rfl
    have hrest := ih fun q hq => h q (List.mem_cons_of_mem _ hq)
    rw [followingWords, List.flatMap_cons, List.cons_append, splitAtJoints, splitAtJoints_append hws,
      ← followingWords, hrest, hword]
    simp

/-- The words of an item, none of which joins items, are read as the item. -/
private def ItemReads (item : Item) : Prop :=
  ∃ ws, Spells items? item.tokens ws ∧ (∀ w ∈ ws, joint? w = none) ∧ item? item.joint ws = some item

/-- Items after the first have words that are read as them wherever they follow. -/
private def FollowingRead (items : List Item) : Prop :=
  ∃ others, (others.mapM fun (joint, ws) => item? joint ws) = some items ∧
    (∀ p ∈ others, p.1 ≠ Joint.initial ∧ ∀ w ∈ p.2, joint? w = none) ∧
    ∀ ts ws, Spells items? ts ws → Spells items? (ts ++ itemsTokens false items) (ws ++ followingWords others)

/-- The words of a clause are read as its items. -/
private def ItemsRead (items : List Item) : Prop :=
  ∃ ws, Spells items? (itemsTokens true items) ws ∧ items? ws = some items

private theorem itemReads_constant (joint : Joint) (holds : Bool) : ItemReads (.constant joint holds) := by
  have hword : IsWord items? (Token.chars (if holds then "1=1".toList else "1=0".toList))
      (Piece.ofText (if holds then "1=1".toList else "1=0".toList)) := by
    cases holds <;> exact isWord_chars (by decide)
  refine ⟨_, hword.spells, ?_, ?_⟩
  · cases holds <;> simp <;> exact joint?_ofText (by decide) (by decide)
  · cases holds <;> rfl

private theorem itemReads_test (joint : Joint) (column : Text) (textCast : Bool) {comparison : Comparison}
    {operands : List Literal} (h : comparison.takes operands = true) :
    ItemReads (.test joint column textCast comparison operands) := by
  obtain ⟨w, hw, hcolumn, htext⟩ := exists_spells_comparandTokens column textCast
  obtain ⟨ws, hws, hread, hjoints, hne⟩ := exists_spells_comparison h
  refine ⟨[w] ++ ws, ?_, ?_, ?_⟩
  · simpa [Item.tokens] using hw.space hws
  · intro v hv
    rcases List.mem_append.mp hv with hv | hv
    · obtain rfl := List.mem_singleton.mp hv
      exact joint?_of_text?_none htext
    · exact hjoints v hv
  · obtain ⟨v, vs, rfl⟩ := List.exists_cons_of_ne_nil hne
    simp [item?, hcolumn, hread, Item.joint]

private theorem itemReads_group (joint : Joint) {items : List Item} (h : ItemsRead items) :
    ItemReads (.group joint items) := by
  obtain ⟨ws, hspells, hread⟩ := h
  refine ⟨_, hspells.isWord_group.spells, ?_, ?_⟩
  · intro w hw
    obtain rfl := List.mem_singleton.mp hw
    rfl
  · simp [item?, hread, Item.joint]

private theorem followingRead_cons {item : Item} {rest : List Item} (hjoint : item.joint ≠ .initial)
    (hitem : ItemReads item) (hrest : FollowingRead rest) : FollowingRead (item :: rest) := by
  obtain ⟨ws, hspells, hjoints, hread⟩ := hitem
  obtain ⟨others, hothers, hseparate, hfollow⟩ := hrest
  refine ⟨(item.joint, ws) :: others, ?_, ?_, ?_⟩
  · simp [hread, hothers]
  · intro p hp
    rcases List.mem_cons.mp hp with rfl | hp
    · exact ⟨hjoint, hjoints⟩
    · exact hseparate p hp
  · -- the joint is a word of its own between what stands before and the item
    intro ts vs hts
    have hword : Spells items? (Token.chars (jointWord item.joint)) [Piece.ofText (jointWord item.joint)] := by
      cases item.joint <;> exact (isWord_chars (by decide)).spells
    have hseparator : Token.chars item.joint.separator =
        .char ' ' :: Token.chars (jointWord item.joint) ++ [.char ' '] := by
      cases hj : item.joint with
      | initial => exact absurd hj hjoint
      | and => rfl
      | or => rfl
    have hall := hfollow _ _ ((hts.space hword).space hspells)
    rw [itemsTokens, if_neg (by decide), hseparator]
    simpa [followingWords] using hall

private theorem itemsRead_cons {item : Item} {rest : List Item} (hjoint : item.joint = .initial)
    (hitem : ItemReads item) (hrest : FollowingRead rest) : ItemsRead (item :: rest) := by
  obtain ⟨ws, hspells, hjoints, hread⟩ := hitem
  obtain ⟨others, hothers, hseparate, hfollow⟩ := hrest
  refine ⟨_, by simpa [itemsTokens] using hfollow _ _ hspells, ?_⟩
  rw [hjoint] at hread
  rw [items?, splitAtJoints_append hjoints, splitAtJoints_followingWords hseparate]
  simp [hread, hothers]

-- The recursion follows that of the written form: an item, the items after the first, the items of a group.
mutual

private theorem itemReads_of_isProper : ∀ item : Item, item.isProper = true → ItemReads item
  | .constant joint holds, _ => itemReads_constant joint holds
  | .test joint column textCast comparison operands, h => by
    rw [Item.isProper] at h
    exact itemReads_test joint column textCast h
  | .group joint items, h => by
    rw [Item.isProper] at h
    exact itemReads_group joint (itemsRead_of_itemsProper items h)

private theorem followingRead_of_itemsProper : ∀ items : List Item, itemsProper false items = true →
    FollowingRead items
  | [], _ => ⟨[], rfl, by simp, fun ts ws h => by simpa [itemsTokens, followingWords] using h⟩
  | item :: rest, h => by
    simp only [itemsProper, Bool.and_eq_true, beq_iff_eq, decide_eq_false_iff_not] at h
    exact followingRead_cons h.1.1 (itemReads_of_isProper item h.1.2) (followingRead_of_itemsProper rest h.2)

private theorem itemsRead_of_itemsProper : ∀ items : List Item, itemsProper true items = true → ItemsRead items
  | [], h => by simp [itemsProper] at h
  | item :: rest, h => by
    simp only [itemsProper, Bool.and_eq_true, beq_iff_eq, decide_eq_true_eq] at h
    exact itemsRead_cons h.1.1 (itemReads_of_isProper item h.1.2) (followingRead_of_itemsProper rest h.2)

end

/-! ### The written form is made of separate tokens -/

open Token in
private theorem separated_comparandTokens (column : Text) (textCast : Bool) :
    Separated (comparandTokens column textCast) := by
  have hname : Separated [.name column] := separated_singleton rfl
  cases textCast with
  | false => exact hname
  | true =>
    have hsize : Separated (enclose (chars "MAX".toList)) := (separated_chars (by decide)).enclose
    have htype : Separated (chars "NVARCHAR".toList ++ enclose (chars "MAX".toList)) :=
      hsize.chars_append (by decide)
    have hcast := htype.append_char (c := ',') (.cons_char rfl (.cons_char (c := ' ') rfl hname))
    simpa [comparandTokens] using hcast.enclose.chars_append (t := "CONVERT".toList) (by decide)

open Token in
private theorem separated_operandTokens (comparison : Comparison) (operands : List Literal) :
    Separated (operandTokens comparison operands) := by
  have hlist := Literal.separated_listTokens operands
  unfold operandTokens
  split
  · exact separated_nil
  · split
    · exact .cons_char rfl hlist.enclose
    · exact .cons_char rfl hlist

open Token in
private theorem separated_test (joint : Joint) (column : Text) (textCast : Bool) (comparison : Comparison)
    (operands : List Literal) : Separated (Item.test joint column textCast comparison operands).tokens := by
  have hoperator : isPlainText comparison.operator = true := by
    cases comparison <;> decide
  have hrest := (separated_operandTokens comparison operands).chars_append hoperator
  have htest := (separated_comparandTokens column textCast).append_char (c := ' ') (.cons_char rfl hrest)
  simpa [Item.tokens] using htest

open Token in
private theorem Separated.append_joint {joint : Joint} {ts us : List Token} (hjoint : joint ≠ .initial)
    (ht : Separated ts) (hu : Separated us) : Separated (ts ++ (chars joint.separator ++ us)) := by
  cases joint with
  | initial => exact absurd rfl hjoint
  | and => exact ht.append_char (hu.chars_append (t := " AND ".toList) (by decide))
  | or => exact ht.append_char (hu.chars_append (t := " OR ".toList) (by decide))

mutual

private theorem separated_tokens : ∀ item : Item, item.isProper = true → Token.Separated item.tokens
  | .constant _ holds, _ => by cases holds <;> exact Token.separated_chars (by decide)
  | .test joint column textCast comparison operands, _ =>
    separated_test joint column textCast comparison operands
  | .group _ items, h => by
    rw [Item.isProper] at h
    exact (separated_itemsTokens items h).enclose

private theorem separated_append_itemsTokens : ∀ items : List Item, itemsProper false items = true →
    ∀ ts : List Token, Token.Separated ts → Token.Separated (ts ++ itemsTokens false items)
  | [], _, ts, hts => by simpa [itemsTokens] using hts
  | item :: rest, h, ts, hts => by
    simp only [itemsProper, Bool.and_eq_true, beq_iff_eq, decide_eq_false_iff_not] at h
    have hitem := Separated.append_joint h.1.1 hts (separated_tokens item h.1.2)
    simpa [itemsTokens] using separated_append_itemsTokens rest h.2 _ hitem

theorem separated_itemsTokens : ∀ items : List Item, itemsProper true items = true →
    Token.Separated (itemsTokens true items)
  | [], h => by simp [itemsProper] at h
  | item :: rest, h => by
    simp only [itemsProper, Bool.and_eq_true, beq_iff_eq, decide_eq_true_eq] at h
    simpa [itemsTokens] using separated_append_itemsTokens rest h.2 _ (separated_tokens item h.1.2)

end

/-! ### Reading a clause -/

/-- Reading finds every proper tree again from its written form. -/
theorem readClause?_clauseText {items : List Item} (h : itemsProper true items = true) :
    readClause? (clauseText items) = some items := by
  obtain ⟨ws, hspells, hread⟩ := itemsRead_of_itemsProper items h
  rw [readClause?, clauseText, hspells.readWords? (separated_itemsTokens items h), Option.bind_some, hread]

/-- Two proper trees with one written form are the same. -/
theorem clauseText_injective {items others : List Item} (h : itemsProper true items = true)
    (hothers : itemsProper true others = true) (heq : clauseText items = clauseText others) : items = others := by
  have hread := readClause?_clauseText h
  rw [heq, readClause?_clauseText hothers] at hread
  exact (Option.some.inj hread).symm

end EntityStore
