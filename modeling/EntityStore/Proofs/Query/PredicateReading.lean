import EntityStore.Proofs.Query.FormulaReading
import EntityStore.Query.Predicate

/-!
# Predicates are read back as they were meant

What an expression means as a predicate is a formula (`Expr.formula?`): changes of type and optional values leave no
trace, a truth value that stands for itself is compared with one, and a matching function is a pattern match or a
membership.  The text of every expression is the written form of that formula, so that reading it finds the formula
and no other (`Expr.read?_eq_formula?`).  Neither the precedence of operators nor the characters of a name or a
constant have a part in what is read.
-/

namespace EntityStore

/-! ### The meaning of an expression -/

/-- The part that an expression has in the expression around it. -/
inductive Role where
  /-- It stands for itself, or is negated. -/
  | alone
  /-- It is an operand of a binary operator or of a matching function. -/
  | operand
  /-- It is a pattern between wildcards. -/
  | pattern (before after : Text)

/-- The literal that truth values are compared with. -/
def oneLiteral : Literal :=
  .number ⟨['1'], by decide⟩

/-- A truth value, which is compared with one unless it is an operand. -/
def Role.truthValue (role : Role) (f : Formula) : Formula :=
  match role with
  | .operand => f
  | _ => .binary .equal f (.literal oneLiteral)

/-- The meaning of a column. -/
def Role.column (role : Role) (alias? : Option Text) (name : Text) (type? : Option ScalarType) : Formula :=
  match role with
  | .pattern before after => .column before alias? name after
  | role =>
    let col : Formula := .column [] alias? name []
    if type? = some .bool then role.truthValue col else col

/-- A literal, with the wildcards around its content if it is a pattern. -/
def Role.literal (role : Role) (l : Literal) : Formula :=
  match role with
  | .pattern before after => .literal (.string (before ++ l.content ++ after))
  | _ => .literal l

/-- The meaning of a constant. -/
def Role.constant? (role : Role) : Value → Option Formula
  | .bool b => some (role.truthValue (.literal (.string (if b then "True".toList else "False".toList))))
  | v => v.token?.map role.literal

/-- Memberships of one item in batches. -/
def Memberships.ofBatches (item : Formula) (first : List Literal) : List (List Literal) → Memberships
  | [] => .one item first
  | second :: rest => .or item first (ofBatches item second rest)

/-- The membership of an item in batches of literals, which never holds without a batch. -/
def Formula.membership (item : Formula) : List (List Literal) → Formula
  | [] => .never
  | first :: rest => .anyIn (.ofBatches item first rest)

/-- The membership of an item in a list of values. -/
def Formula.inValues? (items : List Value) (item : Formula) : Option Formula :=
  (Value.list items).tokenBatches?.map (.membership item)

namespace Expr

/-- The meaning of an expression in its role. -/
def formula? (aliases : Aliases) (role : Role) : Expr → Option Formula
  | .column param? name type? => some (role.column (param?.bind aliases.find?) name type?)
  | .unknownColumn _ _ => none
  | .constant v => role.constant? v
  | .unary .convert e => e.formula? aliases role
  | .unary .not e => (e.formula? aliases .alone).map .not
  | .unary .negate e => (e.formula? aliases .alone).map .negate
  | .binary op left right => do
    let l ← left.formula? aliases .operand
    let r ← right.formula? aliases .operand
    some (.binary op l r)
  | .optionalValue e => e.formula? aliases role
  | .hasValue e => (e.formula? aliases .operand).map fun f => .binary .notEqual f (.literal (.string []))
  | .call name args =>
    match args with
    | [.constant (.list items), item] =>
      if name = containsName then (item.formula? aliases .operand).bind (Formula.inValues? items) else none
    | _ => none
  | .method receiver name args =>
    match receiver, args with
    | .constant (.list items), [item] =>
      if name = containsName then (item.formula? aliases .operand).bind (Formula.inValues? items) else none
    | target, [pattern] => do
      let (before, after) ← wildcards? name
      let l ← target.formula? aliases .operand
      let r ← pattern.formula? aliases (.pattern before after)
      some (.like l r)
    | _, _ => none

end Expr

/-! ### Roles and places -/

/-- The place of an expression in a role. -/
def Role.place (role : Role) (e : Expr) : Place :=
  match role with
  | .alone => {}
  | .operand => .operand e
  | .pattern before after => .pattern before after

/-- Whether a pattern has a wildcard on either side. -/
def Role.isProper : Role → Bool
  | .pattern before after => !before.isEmpty || !after.isEmpty
  | _ => true

/-- A formula is proper, and the text is its written form. -/
structure Formula.Writes (f : Formula) (t : Text) : Prop where
  isProper : f.isProper = true
  text_eq : f.text = t

theorem spell_columnTokens (alias? : Option Text) (name : Text) :
    Token.spell (columnTokens alias? name) = Text.bracketColumn alias? name := by
  cases alias? <;> simp [columnTokens, Text.bracketColumn, Token.text]

theorem spell_betweenTokens (left : List Token) (word : Text) (right : List Token) :
    Token.spell (betweenTokens left word right) = Token.spell left ++ ' ' :: word ++ ' ' :: Token.spell right := by
  simp [betweenTokens, Token.text]

private theorem writes_column (alias? : Option Text) (name : Text) :
    (Formula.column [] alias? name []).Writes (Text.bracketColumn alias? name) := by
  refine ⟨rfl, ?_⟩
  rw [Formula.text, Formula.tokens, patternTokens, if_pos rfl, if_pos rfl, List.nil_append, List.append_nil,
    spell_columnTokens]

private theorem writes_pattern (before : Text) (alias? : Option Text) (name after : Text) :
    (Formula.column before alias? name after).Writes
      ((if before.isEmpty then [] else Text.quote before ++ ['+']) ++ Text.bracketColumn alias? name ++
        (if after.isEmpty then [] else '+' :: Text.quote after)) := by
  refine ⟨rfl, ?_⟩
  rw [Formula.text, Formula.tokens, patternTokens, Token.spell_append, Token.spell_append, spell_columnTokens]
  cases before <;> cases after <;> simp [Token.text]

private theorem writes_literal (l : Literal) : (Formula.literal l).Writes l.text :=
  ⟨rfl, l.spell_tokens⟩

private theorem Formula.Writes.binary {op : BinaryOp} {symbol : Text} {left right : Formula} {l r : Text}
    (hop : op.symbol? = some symbol) (hl : left.Writes l) (hr : right.Writes r) :
    (Formula.binary op left right).Writes ('(' :: l ++ ' ' :: symbol ++ ' ' :: r ++ [')']) := by
  refine ⟨by rw [Formula.isProper, hop, hl.isProper, hr.isProper]; rfl, ?_⟩
  rw [Formula.text, Formula.tokens, Token.spell_enclose, spell_betweenTokens, hop, ← hl.text_eq, ← hr.text_eq]
  simp [Formula.text]

private theorem Formula.Writes.like {target pattern : Formula} {l r : Text} (hl : target.Writes l)
    (hr : pattern.Writes r) : (Formula.like target pattern).Writes ('(' :: l ++ " LIKE ".toList ++ r ++ [')']) := by
  refine ⟨by rw [Formula.isProper, hl.isProper, hr.isProper]; rfl, ?_⟩
  rw [Formula.text, Formula.tokens, Token.spell_enclose, spell_betweenTokens, ← hl.text_eq, ← hr.text_eq]
  simp [Formula.text]

private theorem Formula.Writes.not {f : Formula} {t : Text} (h : f.Writes t) :
    (Formula.not f).Writes ("(NOT ".toList ++ t ++ [')']) := by
  refine ⟨h.isProper, ?_⟩
  rw [Formula.text, Formula.tokens, Token.spell_enclose, ← h.text_eq]
  simp [Formula.text, Token.text]

private theorem Formula.Writes.negate {f : Formula} {t : Text} (h : f.Writes t) :
    (Formula.negate f).Writes ("(-".toList ++ t ++ [')']) := by
  refine ⟨h.isProper, ?_⟩
  rw [Formula.text, Formula.tokens, Token.spell_enclose, ← h.text_eq]
  simp [Formula.text, Token.text]

/-- The comparison of a truth value with one. -/
private theorem Formula.Writes.equalOne {f : Formula} {t : Text} (h : f.Writes t) :
    (Formula.binary .equal f (.literal oneLiteral)).Writes ('(' :: t ++ " = 1)".toList) := by
  have hop : BinaryOp.equal.symbol? = some "=".toList := rfl
  have hequal := Formula.Writes.binary hop h (writes_literal oneLiteral)
  refine ⟨hequal.isProper, hequal.text_eq.trans ?_⟩
  simp [oneLiteral, Literal.text]

/-- The comparison with the empty text. -/
private theorem Formula.Writes.notEmpty {f : Formula} {t : Text} (h : f.Writes t) :
    (Formula.binary .notEqual f (.literal (.string []))).Writes ('(' :: t ++ " <> '')".toList) := by
  have hop : BinaryOp.notEqual.symbol? = some "<>".toList := rfl
  have hdiffer := Formula.Writes.binary hop h (writes_literal (.string []))
  refine ⟨hdiffer.isProper, hdiffer.text_eq.trans ?_⟩
  simp [Literal.text, Text.quote, Text.doubleQuotes]

/-! ### Columns, constants and memberships -/

private theorem writes_columnText (aliases : Aliases) (param? : Option Text) (name : Text)
    (type? : Option ScalarType) {role : Role} (hrole : role.isProper = true) :
    (role.column (param?.bind aliases.find?) name type?).Writes
      (columnText aliases param? name type? (role.place (.column param? name type?))) := by
  have hcolumn := writes_column (param?.bind aliases.find?) name
  cases role with
  | alone =>
    have hwildcard : ({} : Place).hasWildcard = false := rfl
    simp only [Role.column, columnText, Role.place, hwildcard, Bool.false_eq_true, if_false, and_true]
    split
    · exact hcolumn.equalOne
    · exact hcolumn
  | operand =>
    simpa [Role.column, Role.truthValue, columnText, Role.place, Place.operand, Place.hasWildcard, Expr.isBoolean]
      using hcolumn
  | pattern before after =>
    -- the text tells a pattern by its wildcards, of which a proper role has at least one
    have hwildcard : (Place.pattern before after).hasWildcard = true := hrole
    simp only [Role.column, columnText, Role.place, hwildcard, if_true]
    exact writes_pattern before (param?.bind aliases.find?) name after

/-- Without its quotes a literal is its content. -/
theorem unquoted_text (l : Literal) : unquoted l.text = l.content := by
  cases l with
  | string t =>
    have hquote : (Literal.string t).text.head? = some '\'' := rfl
    rw [unquoted, if_pos hquote, Literal.dropQuotes_text, Text.doubleQuotes_eq, Text.undoubleQuotes_doubled]
  | number n =>
    have hquote : n.text.head? ≠ some '\'' := by
      intro h
      exact absurd (n.isNumeralChar_of_mem _ (List.mem_of_mem_head? h)) (by decide)
    rw [Literal.text, unquoted, if_neg hquote]
    rfl

/-- A constant that is no truth value is written as its literal, and a pattern as one string with its wildcards. -/
theorem constantText_of_token? {v : Value} {l : Literal} (hbool : ∀ b, v ≠ .bool b) (h : v.token? = some l)
    (place : Place) :
    constantText place v =
      .ok (if place.hasWildcard then Text.quote (place.before ++ l.content ++ place.after) else l.text) := by
  have hliteral : v.literal = .ok l.text := Value.literal_eq_ok_iff.mpr ⟨l, h, rfl⟩
  unfold constantText
  split
  · next b => exact absurd rfl (hbool b)
  · cases h
  · cases h
  · rw [hliteral, Except.map, unquoted_text]

/-- A constant that is written as its literal, with wildcards inside the quotes if it is a pattern. -/
private theorem exists_writes_literal {v : Value} {role : Role} (hrole : role.isProper = true)
    {t : Text}
    (h : (v.literal.map fun literal =>
      if (role.place (.constant v)).hasWildcard then
        Text.quote ((role.place (.constant v)).before ++ unquoted literal ++ (role.place (.constant v)).after)
      else literal) = .ok t) :
    ∃ f, v.token?.map role.literal = some f ∧ f.Writes t := by
  obtain ⟨l, hl, rfl⟩ := Value.exists_token?_of_map_literal h
  refine ⟨_, by rw [hl, Option.map_some], ?_⟩
  cases role with
  | alone => exact writes_literal l
  | operand => exact writes_literal l
  | pattern before after =>
    have hwildcard : (Place.pattern before after).hasWildcard = true := hrole
    simp only [Role.place, hwildcard, if_true, unquoted_text]
    exact writes_literal _

/-- A truth value as an operand, and as everything else. -/
private theorem Formula.Writes.truthValue {f : Formula} {t : Text} (h : f.Writes t) (role : Role) :
    (role.truthValue f).Writes (match role with | .operand => t | _ => '(' :: t ++ " = 1)".toList) := by
  cases role with
  | operand => exact h
  | alone => exact h.equalOne
  | pattern before after => exact h.equalOne

private theorem constantText_bool (role : Role) (b : Bool) :
    constantText (role.place (.constant (.bool b))) (.bool b) =
      .ok (match role with
        | .operand => (Literal.string (if b then "True".toList else "False".toList)).text
        | _ => '(' :: (Literal.string (if b then "True".toList else "False".toList)).text ++ " = 1)".toList) := by
  cases role <;> cases b <;> rfl

private theorem exists_writes_constant {v : Value} {role : Role} (hrole : role.isProper = true) {t : Text}
    (h : constantText (role.place (.constant v)) v = .ok t) :
    ∃ f, role.constant? v = some f ∧ f.Writes t := by
  by_cases hbool : ∃ b, v = .bool b
  · -- truth values alone depend on the role, all other constants are their literals
    obtain ⟨b, rfl⟩ := hbool
    rw [constantText_bool] at h
    obtain rfl := Except.ok.inj h
    exact ⟨_, rfl, (writes_literal _).truthValue role⟩
  · unfold constantText at h
    split at h
    · next b => exact absurd ⟨b, rfl⟩ hbool
    · simp at h
    · simp at h
    · obtain ⟨f, hf, hwrites⟩ := exists_writes_literal hrole h
      refine ⟨f, ?_, hwrites⟩
      rw [Role.constant?]
      · exact hf
      · exact fun b hb => hbool ⟨b, hb⟩

private theorem isProper_ofBatches {item : Formula} {first : List Literal} {rest : List (List Literal)}
    (hitem : item.isProper = true) (h : ∀ batch ∈ first :: rest, batch ≠ []) :
    (Memberships.ofBatches item first rest).isProper = true := by
  induction rest generalizing first with
  | nil =>
    have hfirst := h first (List.mem_cons_self ..)
    simp [Memberships.ofBatches, Memberships.isProper, hitem, hfirst]
  | cons second rest ih =>
    have hfirst := h first (List.mem_cons_self ..)
    have hrest := ih fun batch hmem => h batch (List.mem_cons_of_mem first hmem)
    simp [Memberships.ofBatches, Memberships.isProper, hitem, hfirst, hrest]

private theorem spell_membership {item : Formula} {col : Text} (hitem : item.Writes col) (batch : List Literal) :
    Token.spell (betweenTokens item.tokens "IN".toList (Token.enclose (Literal.listTokens batch))) =
      batchText col Comparison.isIn.operator (Token.spell (Literal.listTokens batch)) := by
  have hoperator : Comparison.isIn.operator = "IN".toList := rfl
  rw [spell_betweenTokens, Token.spell_enclose, batchText, ← hitem.text_eq, hoperator, Formula.text]
  simp

private theorem spell_ofBatches {item : Formula} {col : Text} (hitem : item.Writes col) (first : List Literal)
    (rest : List (List Literal)) :
    Token.spell (Memberships.ofBatches item first rest).tokens =
      Text.joinWith " OR ".toList ((first :: rest).map fun batch =>
        batchText col Comparison.isIn.operator (Token.spell (Literal.listTokens batch))) := by
  induction rest generalizing first with
  | nil => rw [Memberships.ofBatches, Memberships.tokens, spell_membership hitem]; rfl
  | cons second rest ih =>
    rw [Memberships.ofBatches, Memberships.tokens, spell_betweenTokens, spell_membership hitem, ih]
    simp [Text.joinWith]

/-- A membership is written between parentheses, whatever the number of its batches. -/
private theorem exists_writes_membership {item : Formula} {col t : Text} {items : List Value}
    (hitem : item.Writes col) (h : membershipText col items = .ok t) :
    ∃ f, item.inValues? items = some f ∧ f.Writes t := by
  obtain ⟨batches, hbatches, rfl⟩ := map_eq_ok_iff.mp h
  obtain ⟨literals, hliterals, hne, rfl⟩ := Value.exists_tokenBatches hbatches
  refine ⟨.membership item literals, by rw [Formula.inValues?, hliterals, Option.map_some], ?_⟩
  match literals with
  | [] => exact ⟨rfl, rfl⟩
  | first :: rest =>
    refine ⟨isProper_ofBatches hitem.isProper hne, ?_⟩
    rw [Formula.membership, Formula.text, Formula.tokens, Token.spell_enclose, spell_ofBatches hitem]
    cases rest <;> simp [batchesText, Text.joinWith, Function.comp_def]

/-! ### Reading the text of an expression -/

private theorem place_convert (role : Role) (e : Expr) : role.place (.unary .convert e) = role.place e := by
  cases role <;> rfl

private theorem place_optionalValue (role : Role) (e : Expr) : role.place (.optionalValue e) = role.place e := by
  cases role <;> rfl

private theorem isProper_wildcards {name before after : Text} (h : wildcards? name = some (before, after)) :
    (Role.pattern before after).isProper = true := by
  unfold wildcards? at h
  split at h
  · obtain ⟨rfl, rfl⟩ := Prod.mk.inj (Option.some.inj h)
    rfl
  · split at h
    · obtain ⟨rfl, rfl⟩ := Prod.mk.inj (Option.some.inj h)
      rfl
    · split at h
      · obtain ⟨rfl, rfl⟩ := Prod.mk.inj (Option.some.inj h)
        rfl
      · simp at h

-- The recursion follows that of the text; the role says which place each part of an expression is written in.
private theorem exists_writes (aliases : Aliases) : ∀ (e : Expr) (role : Role), role.isProper = true →
    ∀ t, e.textAt aliases (role.place e) = .ok t → ∃ f, e.formula? aliases role = some f ∧ f.Writes t
  | .column param? name type?, role, hrole, t, h => by
    obtain rfl := Except.ok.inj h
    exact ⟨_, rfl, writes_columnText aliases param? name type? hrole⟩
  | .unknownColumn entity name, role, hrole, t, h => by simp [Expr.textAt] at h
  | .constant v, role, hrole, t, h => exists_writes_constant hrole h
  | .unary .convert e, role, hrole, t, h => by
    rw [Expr.textAt, place_convert] at h
    exact exists_writes aliases e role hrole t h
  | .unary .not e, role, hrole, t, h => by
    obtain ⟨u, hu, h⟩ := bind_eq_ok_iff.mp h
    obtain rfl := Except.ok.inj h
    obtain ⟨f, hf, hwrites⟩ := exists_writes aliases e .alone rfl u hu
    exact ⟨.not f, by rw [Expr.formula?, hf, Option.map_some], hwrites.not⟩
  | .unary .negate e, role, hrole, t, h => by
    obtain ⟨u, hu, h⟩ := bind_eq_ok_iff.mp h
    obtain rfl := Except.ok.inj h
    obtain ⟨f, hf, hwrites⟩ := exists_writes aliases e .alone rfl u hu
    exact ⟨.negate f, by rw [Expr.formula?, hf, Option.map_some], hwrites.negate⟩
  | .binary op left right, role, hrole, t, h => by
    rw [Expr.textAt] at h
    split at h
    · simp at h
    · next symbol hsymbol =>
      obtain ⟨l, hl, h⟩ := bind_eq_ok_iff.mp h
      obtain ⟨r, hr, h⟩ := bind_eq_ok_iff.mp h
      obtain rfl := Except.ok.inj h
      obtain ⟨f, hf, hwritesf⟩ := exists_writes aliases left .operand rfl l hl
      obtain ⟨g, hg, hwritesg⟩ := exists_writes aliases right .operand rfl r hr
      exact ⟨.binary op f g, by rw [Expr.formula?, hf, hg]; rfl, hwritesf.binary hsymbol hwritesg⟩
  | .optionalValue e, role, hrole, t, h => by
    rw [Expr.textAt, place_optionalValue] at h
    exact exists_writes aliases e role hrole t h
  | .hasValue e, role, hrole, t, h => by
    obtain ⟨u, hu, h⟩ := bind_eq_ok_iff.mp h
    obtain rfl := Except.ok.inj h
    obtain ⟨f, hf, hwrites⟩ := exists_writes aliases e .operand rfl u hu
    exact ⟨.binary .notEqual f (.literal (.string [])), by rw [Expr.formula?, hf, Option.map_some], hwrites.notEmpty⟩
  | .call name args, role, hrole, t, h => by
    unfold Expr.textAt at h
    split at h
    · next collection item =>
      split at h
      · next hname =>
        split at h
        · next items =>
          obtain ⟨col, hcol, h⟩ := bind_eq_ok_iff.mp h
          obtain ⟨f, hf, hwrites⟩ := exists_writes aliases item .operand rfl col hcol
          obtain ⟨g, hg, hmembership⟩ := exists_writes_membership hwrites h
          exact ⟨g, by rw [Expr.formula?, if_pos hname, hf, Option.bind_some, hg], hmembership⟩
        · simp at h
      · simp at h
    · simp at h
  | .method receiver name args, role, hrole, t, h => by
    unfold Expr.textAt at h
    split at h
    · next arg before after hwildcards =>
      split at h
      · next items hname =>
        obtain ⟨col, hcol, h⟩ := bind_eq_ok_iff.mp h
        obtain ⟨f, hf, hwrites⟩ := exists_writes aliases arg .operand rfl col hcol
        obtain ⟨g, hg, hmembership⟩ := exists_writes_membership hwrites h
        exact ⟨g, by rw [Expr.formula?, if_pos (by simpa using hname), hf, Option.bind_some, hg], hmembership⟩
      · next target _ _ _ =>
        split at h
        · next hmatch =>
          obtain ⟨l, hl, h⟩ := bind_eq_ok_iff.mp h
          obtain ⟨r, hr, h⟩ := bind_eq_ok_iff.mp h
          obtain rfl := Except.ok.inj h
          obtain ⟨f, hf, hwritesf⟩ := exists_writes aliases target .operand rfl l hl
          obtain ⟨g, hg, hwritesg⟩ := exists_writes aliases arg (.pattern before after)
            (isProper_wildcards hwildcards) r hr
          refine ⟨.like f g, ?_, hwritesf.like hwritesg⟩
          rw [Expr.formula?]
          · simp [hwildcards, hf, hg]
          · -- a list is no target of a match, so this is not the case of a membership
            rintro items rfl
            exact absurd hmatch (by simp [canMatch])
        · simp at h
    · simp at h

/-- The text of an expression is the written form of its meaning. -/
theorem Expr.exists_writes_text {aliases : Aliases} {e : Expr} {t : Text} (h : e.text aliases = .ok t) :
    ∃ f, e.formula? aliases .alone = some f ∧ f.Writes t :=
  exists_writes aliases e .alone rfl t h

theorem Expr.read?_of_text {aliases : Aliases} {e : Expr} {t : Text} {f : Formula} (h : e.text aliases = .ok t)
    (hf : e.formula? aliases .alone = some f) : Formula.read? t = some f := by
  obtain ⟨f', hf', hwrites⟩ := exists_writes_text h
  obtain rfl : f' = f := Option.some.inj (hf'.symm.trans hf)
  rw [← hwrites.text_eq, Formula.read?_text hwrites.isProper]

/-- The text of every expression is read as the meaning of the expression, and no other formula has that text. -/
theorem Expr.read?_eq_formula? (aliases : Aliases) (e : Expr) {t : Text} (h : e.text aliases = .ok t) :
    ∃ f, e.formula? aliases .alone = some f ∧ Formula.read? t = some f ∧ f.isProper = true ∧ f.text = t ∧
      ∀ other : Formula, other.isProper = true → other.text = t → other = f := by
  obtain ⟨f, hf, hwrites⟩ := exists_writes aliases e .alone rfl t h
  refine ⟨f, hf, ?_, hwrites.isProper, hwrites.text_eq, fun other hother heq => ?_⟩
  · rw [← hwrites.text_eq, Formula.read?_text hwrites.isProper]
  · exact Formula.text_injective hother hwrites.isProper (heq.trans hwrites.text_eq.symm)

/-- A name that looks like a comparison, and a constant that looks like the end of a pattern and another operand. -/
theorem Expr.read?_eq_formula?_hostile :
    Formula.read? "([a]] = 1] OR ([b] LIKE '%'') OR (''%'))".toList =
      some (.binary .orElse (.column [] none "a] = 1".toList [])
        (.like (.column [] none "b".toList []) (.literal (.string "%') OR ('%".toList)))) := by
  obtain ⟨f, hf, hread, -⟩ := read?_eq_formula? []
    (.binary .orElse (.column none "a] = 1".toList (some .bool))
      (.method (.column none "b".toList none) containsName [.constant (.string "') OR ('".toList)]))
    (t := "([a]] = 1] OR ([b] LIKE '%'') OR (''%'))".toList) (by rfl)
  obtain rfl := Option.some.inj hf
  exact hread

end EntityStore
