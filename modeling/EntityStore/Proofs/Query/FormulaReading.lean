import EntityStore.Proofs.Query.Formula

/-!
# Reading predicates back

The reader of predicates finds every proper formula again from its written form (`Formula.read?_text`), so that the
written form determines the formula (`Formula.text_injective`).

Each kind of formula has a lemma that says how its words are read.  Since an operation is one word, whatever is inside
its parentheses, the lemmas only speak of operands that are words themselves.
-/

namespace EntityStore.Formula

/-! ### Columns and literals -/

private theorem isInWord_columnTokens {alias? : Option Text} {name : Text} {t : Token}
    (h : t ∈ columnTokens alias? name) : t.isInWord = true := by
  cases alias? <;> simp [columnTokens] at h
  · rw [h]
    rfl
  · rcases h with rfl | rfl | rfl <;> rfl

theorem isWord_columnTokens (alias? : Option Text) (name : Text) :
    IsWord operation? (columnTokens alias? name) ((columnTokens alias? name).map .token) :=
  isWord_tokens fun _ => isInWord_columnTokens

theorem takeColumn?_columnTokens (alias? : Option Text) (name : Text) :
    takeColumn? ((columnTokens alias? name).map .token) = some (alias?, name, []) := by
  cases alias? <;> rfl

private theorem isWord_patternTokens (before : Text) (alias? : Option Text) (name after : Text) :
    IsWord operation? (patternTokens before alias? name after)
      ((patternTokens before alias? name after).map .token) := by
  refine isWord_tokens fun t ht => ?_
  rw [patternTokens, List.mem_append, List.mem_append] at ht
  rcases ht with (ht | ht) | ht
  · split at ht <;> simp at ht
    rcases ht with rfl | rfl <;> rfl
  · exact isInWord_columnTokens ht
  · split at ht <;> simp at ht
    rcases ht with rfl | rfl <;> rfl

private theorem column?_patternTokens (before : Text) (alias? : Option Text) (name after : Text) :
    column? ((patternTokens before alias? name after).map .token) = some (.column before alias? name after) := by
  by_cases hbefore : before = [] <;> by_cases hafter : after = [] <;> cases alias? <;>
    simp [patternTokens, columnTokens, column?, takeBefore, takeColumn?, readAfter?, hbefore, hafter]

private theorem operand?_of_column? {w : Word} {f : Formula} (h : column? w = some f) : operand? w = some f := by
  unfold operand?
  split
  · simp [column?, takeBefore, takeColumn?] at h
  · rw [h, Option.some_or]

private theorem column?_word (l : Literal) : column? l.word = none := by
  cases l with
  | string t => rfl
  | number n =>
    rw [Literal.word]
    cases n.text <;> rfl

private theorem operand?_word (l : Literal) : operand? l.word = some (.literal l) := by
  have hcolumn := column?_word l
  unfold operand?
  split
  · -- a literal is not a pair of parentheses
    next inside reading heq =>
    have hread := Piece.literal?_word (α := Option Formula) l
    rw [heq] at hread
    simp [Piece.literal?, Piece.text?, Piece.char?] at hread
  · rw [hcolumn, Option.none_or, Piece.literal?_word, Option.map_some]

/-! ### Operations -/

/-- A formula is one word, which is read as the formula. -/
private def Reads (f : Formula) : Prop :=
  ∃ w, IsWord operation? f.tokens w ∧ operand? w = some f

/-- Memberships are words that are read as the memberships. -/
private def MembershipsRead (tests : Memberships) : Prop :=
  ∃ ws, Spells operation? tests.tokens ws ∧ memberships? ws = some tests

private theorem reads_operation {f : Formula} {ts : List Token} {ws : List Word} (hts : f.tokens = Token.enclose ts)
    (hspells : Spells operation? ts ws) (hread : operation? ws = some f) : Reads f := by
  refine ⟨[.group ws (operation? ws)], ?_, ?_⟩
  · rw [hts]
    exact hspells.isWord_group
  · rw [operand?, hread]

theorem spells_betweenTokens {left right : List Token} {ls rs : List Word} {word : Text}
    (hword : isWordText word = true) (hleft : Spells operation? left ls)
    (hright : Spells operation? right rs) :
    Spells operation? (betweenTokens left word right) (ls ++ Piece.ofText word :: rs) := by
  have hmiddle : Spells operation? (Token.chars word) [Piece.ofText word] := (isWord_chars hword).spells
  simpa [betweenTokens] using hleft.space (hmiddle.space hright)

/-- Three words with another operator between them than that of a membership. -/
private theorem operation?_binary {t : Text} (h : t ≠ "IN".toList) (left right : Word) :
    operation? [left, Piece.ofText t, right] = binary? left (Piece.ofText t) right := by
  -- three words are read as a membership first
  have hnone : memberships? [left, Piece.ofText t, right] = none := by
    have hmembership : membership? left (Piece.ofText t) right = none := by
      unfold membership?
      split
      · rw [Piece.text?_ofText, if_neg (by simpa using h)]
      · rfl
    rw [memberships?, hmembership]
    rfl
  rw [operation?, hnone, Option.map_none, Option.none_or, plainOperation?]

private theorem reads_never : Reads .never := by
  have hword : IsWord operation? (Token.chars "1=0".toList) (Piece.ofText "1=0".toList) := isWord_chars (by decide)
  exact reads_operation rfl hword.spells rfl

private theorem reads_not {f : Formula} (h : Reads f) : Reads (.not f) := by
  obtain ⟨w, hw, hread⟩ := h
  have hword : IsWord operation? (Token.chars "NOT".toList) (Piece.ofText "NOT".toList) := isWord_chars (by decide)
  refine reads_operation rfl (hword.spells.space hw.spells) ?_
  have hoperation : operation? [Piece.ofText "NOT".toList, w] = (operand? w).map .not := rfl
  rw [List.singleton_append, hoperation, hread, Option.map_some]

private theorem reads_negate {f : Formula} (h : Reads f) : Reads (.negate f) := by
  obtain ⟨w, hw, hread⟩ := h
  have hsign : IsWord operation? [.char '-'] [.token (.char '-')] := isWord_token rfl
  refine reads_operation rfl (hsign.append hw).spells ?_
  have hoperation : operation? [.token (.char '-') :: w] = (operand? w).map .negate := rfl
  rw [List.singleton_append, hoperation, hread, Option.map_some]

private theorem symbol_of_symbol? {op : BinaryOp} {t : Text} (h : op.symbol? = some t) :
    isWordText t = true ∧ t ≠ "IN".toList ∧ t ≠ "LIKE".toList ∧ Token.isPlainText t = true := by
  cases op <;> cases h <;> decide

private theorem reads_binary {op : BinaryOp} {left right : Formula} (hop : op.symbol?.isSome = true)
    (hleft : Reads left) (hright : Reads right) : Reads (.binary op left right) := by
  obtain ⟨t, ht⟩ := Option.isSome_iff_exists.mp hop
  obtain ⟨hchars, hin, hlike, -⟩ := symbol_of_symbol? ht
  obtain ⟨l, hl, hreadl⟩ := hleft
  obtain ⟨r, hr, hreadr⟩ := hright
  have htokens : (binary op left right).tokens = Token.enclose (betweenTokens left.tokens t right.tokens) := by
    rw [tokens, ht, Option.getD_some]
  refine reads_operation htokens (spells_betweenTokens hchars hl.spells hr.spells) ?_
  rw [List.singleton_append, operation?_binary hin, binary?, Piece.text?_ofText, hreadl, hreadr]
  show (if t = "LIKE".toList then _ else _) = _
  rw [if_neg hlike, BinaryOp.ofSymbol?_of_symbol? ht, Option.map_some]

private theorem reads_like {target pattern : Formula} (htarget : Reads target) (hpattern : Reads pattern) :
    Reads (.like target pattern) := by
  obtain ⟨l, hl, hreadl⟩ := htarget
  obtain ⟨r, hr, hreadr⟩ := hpattern
  refine reads_operation rfl (spells_betweenTokens (by decide) hl.spells hr.spells) ?_
  rw [List.singleton_append, operation?_binary (by decide), binary?, Piece.text?_ofText, hreadl, hreadr]
  rfl

private theorem reads_anyIn {tests : Memberships} (h : MembershipsRead tests) : Reads (.anyIn tests) := by
  obtain ⟨ws, hspells, hread⟩ := h
  refine reads_operation rfl hspells ?_
  rw [operation?, hread, Option.map_some, Option.some_or]

/-- A membership is three words. -/
private theorem exists_spells_membership {item : Formula} {literals : List Literal} (hitem : Reads item)
    (hliterals : literals ≠ []) :
    ∃ w list, Spells operation?
        (betweenTokens item.tokens "IN".toList (Token.enclose (Literal.listTokens literals)))
        [w, Piece.ofText "IN".toList, list] ∧
      membership? w (Piece.ofText "IN".toList) list = some (item, literals) := by
  obtain ⟨w, hw, hread⟩ := hitem
  obtain ⟨ws, hspells, hlist⟩ := Literal.spells_listTokens (g := operation?) hliterals
  refine ⟨w, _, spells_betweenTokens (by decide) hw.spells hspells.isWord_group.spells, ?_⟩
  rw [membership?, Piece.text?_ofText, if_pos rfl, hread, hlist]
  rfl

private theorem membershipsRead_one {item : Formula} {literals : List Literal} (hitem : Reads item)
    (hliterals : literals ≠ []) : MembershipsRead (.one item literals) := by
  obtain ⟨w, list, hspells, hread⟩ := exists_spells_membership hitem hliterals
  refine ⟨_, hspells, ?_⟩
  rw [memberships?, hread]
  rfl

private theorem membershipsRead_or {item : Formula} {literals : List Literal} {rest : Memberships}
    (hitem : Reads item) (hliterals : literals ≠ []) (hrest : MembershipsRead rest) :
    MembershipsRead (.or item literals rest) := by
  obtain ⟨w, list, hspells, hread⟩ := exists_spells_membership hitem hliterals
  obtain ⟨ws, hws, hrest⟩ := hrest
  refine ⟨_, spells_betweenTokens (by decide) hspells hws, ?_⟩
  simp only [List.cons_append, List.nil_append]
  rw [memberships?, Piece.text?_ofText, if_pos rfl, hread, hrest]
  rfl

-- The recursion follows that of the written form: a formula, the memberships between one pair of parentheses.
mutual

private theorem reads_of_isProper : ∀ f : Formula, f.isProper = true → Reads f
  | .column before alias? name after, _ =>
    ⟨_, isWord_patternTokens before alias? name after,
      operand?_of_column? (column?_patternTokens before alias? name after)⟩
  | .literal l, _ => ⟨l.word, l.isWord_tokens, operand?_word l⟩
  | .never, _ => reads_never
  | .not f, h => reads_not (reads_of_isProper f h)
  | .negate f, h => reads_negate (reads_of_isProper f h)
  | .binary op left right, h => by
    simp only [isProper, Bool.and_eq_true] at h
    exact reads_binary h.1.1 (reads_of_isProper left h.1.2) (reads_of_isProper right h.2)
  | .like target pattern, h => by
    simp only [isProper, Bool.and_eq_true] at h
    exact reads_like (reads_of_isProper target h.1) (reads_of_isProper pattern h.2)
  | .anyIn tests, h => reads_anyIn (membershipsRead_of_isProper tests h)

private theorem membershipsRead_of_isProper : ∀ tests : Memberships, tests.isProper = true → MembershipsRead tests
  | .one item literals, h => by
    simp only [Memberships.isProper, Bool.and_eq_true, Bool.not_eq_true', List.isEmpty_eq_false_iff] at h
    exact membershipsRead_one (reads_of_isProper item h.1) h.2
  | .or item literals rest, h => by
    simp only [Memberships.isProper, Bool.and_eq_true, Bool.not_eq_true', List.isEmpty_eq_false_iff] at h
    exact membershipsRead_or (reads_of_isProper item h.1.1) h.1.2 (membershipsRead_of_isProper rest h.2)

end

/-- A proper formula is one word wherever it stands, and is read from this word. -/
theorem exists_isWord {f : Formula} (h : f.isProper = true) :
    ∃ w, IsWord operation? f.tokens w ∧ operand? w = some f :=
  reads_of_isProper f h

/-! ### The written form is made of separate tokens -/

open Token in
theorem separated_columnTokens (alias? : Option Text) (name : Text) : Separated (columnTokens alias? name) := by
  have hname : Separated [.name name] := separated_singleton rfl
  cases alias? with
  | none => exact hname
  | some table => exact (separated_singleton (t := .name table) rfl).append_char (c := '.') (.cons_char rfl hname)

open Token in
private theorem separated_patternTokens (before : Text) (alias? : Option Text) (name after : Text) :
    Separated (patternTokens before alias? name after) := by
  have hcolumn := separated_columnTokens alias? name
  have hafter : Separated (columnTokens alias? name ++ if after = [] then [] else [.char '+', .string after]) := by
    split
    · rwa [List.append_nil]
    · exact hcolumn.append_char (.cons_char rfl (separated_singleton rfl))
  rw [patternTokens, List.append_assoc]
  split
  · exact hafter
  · exact (separated_singleton (t := .string before) rfl).append_char (.cons_char rfl hafter)

open Token in
theorem separated_betweenTokens {left right : List Token} {word : Text} (hword : isPlainText word = true)
    (hleft : Separated left) (hright : Separated right) : Separated (betweenTokens left word right) :=
  hleft.append_char (.cons_char rfl ((Separated.cons_char rfl hright).chars_append hword))

open Token in
private theorem separated_membership {item : List Token} (literals : List Literal) (h : Separated item) :
    Separated (betweenTokens item "IN".toList (enclose (Literal.listTokens literals))) :=
  separated_betweenTokens (by decide) h (Literal.separated_listTokens literals).enclose

mutual

theorem separated_tokens : ∀ f : Formula, f.isProper = true → Token.Separated f.tokens
  | .column before alias? name after, _ => separated_patternTokens before alias? name after
  | .literal l, _ => l.separated_tokens
  | .never, _ => (Token.separated_chars (by decide)).enclose
  | .not f, h => ((Token.Separated.cons_char rfl (separated_tokens f h)).chars_append (by decide)).enclose
  | .negate f, h => (Token.Separated.cons_char rfl (separated_tokens f h)).enclose
  | .binary op left right, h => by
    simp only [isProper, Bool.and_eq_true] at h
    obtain ⟨t, ht⟩ := Option.isSome_iff_exists.mp h.1.1
    obtain ⟨-, -, -, hplain⟩ := symbol_of_symbol? ht
    rw [tokens, ht, Option.getD_some]
    exact (separated_betweenTokens hplain (separated_tokens left h.1.2) (separated_tokens right h.2)).enclose
  | .like target pattern, h => by
    simp only [isProper, Bool.and_eq_true] at h
    exact (separated_betweenTokens (by decide) (separated_tokens target h.1) (separated_tokens pattern h.2)).enclose
  | .anyIn tests, h => (separated_membershipsTokens tests h).enclose

private theorem separated_membershipsTokens : ∀ tests : Memberships, tests.isProper = true →
    Token.Separated tests.tokens
  | .one item literals, h => by
    simp only [Memberships.isProper, Bool.and_eq_true] at h
    exact separated_membership literals (separated_tokens item h.1)
  | .or item literals rest, h => by
    simp only [Memberships.isProper, Bool.and_eq_true] at h
    exact separated_betweenTokens (by decide) (separated_membership literals (separated_tokens item h.1.1))
      (separated_membershipsTokens rest h.2)

end

/-! ### Reading a predicate -/

/-- Reading finds every proper formula again from its written form. -/
theorem read?_text {f : Formula} (h : f.isProper = true) : read? f.text = some f := by
  obtain ⟨w, hw, hread⟩ := reads_of_isProper f h
  rw [read?, text, hw.spells.readWords? (separated_tokens f h)]
  exact hread

/-- Two proper formulas with one written form are the same. -/
theorem text_injective {f other : Formula} (h : f.isProper = true) (hother : other.isProper = true)
    (heq : f.text = other.text) : f = other := by
  have hread := read?_text h
  rw [heq, read?_text hother] at hread
  exact (Option.some.inj hread).symm

end EntityStore.Formula
