import EntityStore.Proofs.Query.ClauseFailure
import EntityStore.Proofs.Query.PredicateReading

/-!
# Which expressions have a text

Whether an expression has a text is read off the tree, whatever the aliases and the place: every part of it has to be
of a kind that statements know (`Expr.isSupported`), and every column has to be one that its entity declares
(`Expr.exists_textAt_iff`).  The columns that such a text speaks of are columns of the expression
(`Expr.mem_columns_of_formula?`), each under the alias of its parameter.
-/

namespace EntityStore

namespace Expr

mutual

/-- The columns of an expression in order, those among them that no entity declares. -/
def columns : Expr → List Expr
  | .column param? name type? => [.column param? name type?]
  | .unknownColumn entity name => [.unknownColumn entity name]
  | .constant _ => []
  | .unary _ e => e.columns
  | .binary _ left right => left.columns ++ right.columns
  | .optionalValue e => e.columns
  | .hasValue e => e.columns
  | .call _ args => columnsOf args
  | .method receiver _ args => receiver.columns ++ columnsOf args

/-- The columns of all expressions in order. -/
def columnsOf : List Expr → List Expr
  | [] => []
  | e :: rest => e.columns ++ columnsOf rest

end

/-- Whether every column of an expression is declared. -/
def IsDeclared (e : Expr) : Prop :=
  ∀ entity name, .unknownColumn entity name ∉ e.columns

/-- Whether a value has a literal. -/
def hasLiteral (v : Value) : Bool :=
  v.literalFault?.isNone

/-- Whether every part of an expression is of a kind that statements know.  Functions are known for what they are
asked of: a list for its members, everything else for a pattern. -/
def isSupported : Expr → Bool
  | .column _ _ _ => true
  | .unknownColumn _ _ => true
  | .constant v => hasLiteral v
  | .unary _ e => e.isSupported
  | .binary op left right => op.symbol?.isSome && left.isSupported && right.isSupported
  | .optionalValue e => e.isSupported
  | .hasValue e => e.isSupported
  | .call name args =>
    match args with
    | [.constant (.list items), item] =>
      name == containsName && (Value.list items).leaves.all hasLiteral && item.isSupported
    | _ => false
  | .method receiver name args =>
    match receiver, args with
    | .constant (.list items), [item] =>
      name == containsName && (Value.list items).leaves.all hasLiteral && item.isSupported
    | target, [pattern] =>
      (wildcards? name).isSome && canMatch target pattern && target.isSupported && pattern.isSupported
    | _, _ => false

end Expr

/-! ### Texts of parts -/

theorem exists_literal_iff (v : Value) : (∃ t, v.literal = .ok t) ↔ Expr.hasLiteral v = true := by
  rw [← failure?_eq_none_iff, v.failure?_literal, Expr.hasLiteral, Option.isNone_iff_eq_none]

theorem exists_constantText_iff (place : Place) (v : Value) :
    (∃ t, constantText place v = .ok t) ↔ Expr.hasLiteral v = true := by
  unfold constantText
  split
  · exact iff_of_true ⟨_, rfl⟩ rfl
  · exact iff_of_false (by simp) (by simp [Expr.hasLiteral, Value.literalFault?])
  · exact iff_of_false (by simp) (by simp [Expr.hasLiteral, Value.literalFault?])
  · rw [← failure?_eq_none_iff, failure?_map, failure?_eq_none_iff, exists_literal_iff]

private theorem failure?_membershipText (col : Text) (items : List Value) :
    failure? (membershipText col items) = (Value.list items).leaves.findSome? Value.literalFault? := by
  rw [membershipText, failure?_map, failure?_literalBatches]

theorem exists_membershipText_iff (col : Text) (items : List Value) :
    (∃ t, membershipText col items = .ok t) ↔ (Value.list items).leaves.all Expr.hasLiteral = true := by
  rw [← failure?_eq_none_iff, failure?_membershipText, List.findSome?_eq_none_iff, List.all_eq_true]
  simp only [Expr.hasLiteral, Option.isNone_iff_eq_none]

private theorem failure?_constantText (place place' : Place) (v : Value) :
    failure? (constantText place v) = failure? (constantText place' v) := by
  unfold constantText
  split
  · rfl
  · rfl
  · rfl
  · rw [failure?_map, failure?_map]

/-! ### Texts of expressions -/

namespace Expr

/-- A matching function asks for a pattern, unless it is asked of a list. -/
theorem textAt_method {receiver : Expr} {name before after : Text}
    (hlist : ∀ items, receiver ≠ .constant (.list items)) (hwildcards : wildcards? name = some (before, after))
    (aliases : Aliases) (place : Place) (arg : Expr) :
    (Expr.method receiver name [arg]).textAt aliases place =
      if canMatch receiver arg then do
        let target ← receiver.textAt aliases (.operand receiver)
        let pattern ← arg.textAt aliases (.pattern before after)
        .ok ('(' :: target ++ " LIKE ".toList ++ pattern ++ [')'])
      else .error (.unsupportedExpression (.pattern receiver.describe arg.describe)) := by
  rw [textAt]
  · simp only [hwildcards]
  · exact fun items _ heq => hlist items heq

/-- A list has no text by itself. -/
theorem ne_list_of_textAt {aliases : Aliases} {place : Place} {e : Expr} {t : Text}
    (h : e.textAt aliases place = .ok t) (items : List Value) : e ≠ .constant (.list items) := by
  rintro rfl
  simp [textAt, constantText] at h

private theorem isDeclared_append {e left right : Expr} (h : e.columns = left.columns ++ right.columns) :
    e.IsDeclared ↔ left.IsDeclared ∧ right.IsDeclared := by
  simp only [IsDeclared, h, List.mem_append, not_or, forall_and]

private theorem isDeclared_binary (op : BinaryOp) (left right : Expr) :
    (Expr.binary op left right).IsDeclared ↔ left.IsDeclared ∧ right.IsDeclared :=
  isDeclared_append rfl

private theorem isDeclared_call_list (name : Text) (items : List Value) (item : Expr) :
    (Expr.call name [.constant (.list items), item]).IsDeclared ↔ item.IsDeclared := by
  simp [IsDeclared, columns, columnsOf]

private theorem isDeclared_method_list (name : Text) (items : List Value) (item : Expr) :
    (Expr.method (.constant (.list items)) name [item]).IsDeclared ↔ item.IsDeclared := by
  simp [IsDeclared, columns, columnsOf]

private theorem isDeclared_method (name : Text) (target pattern : Expr) :
    (Expr.method target name [pattern]).IsDeclared ↔ target.IsDeclared ∧ pattern.IsDeclared :=
  isDeclared_append (by simp [columns, columnsOf])

private theorem isSupported_call_of_ne {name : Text} {collection : Expr}
    (h : ∀ items, collection = .constant (.list items) → False) (item : Expr) :
    (Expr.call name [collection, item]).isSupported = false := by
  unfold isSupported
  split
  · next items _ heq => exact (h items (by simpa using (List.cons.inj heq).1)).elim
  · rfl

private theorem isSupported_call_of_length {name : Text} {args : List Expr}
    (h : ∀ collection item, args = [collection, item] → False) : (Expr.call name args).isSupported = false := by
  unfold isSupported
  split
  · exact (h _ _ rfl).elim
  · rfl

private theorem isSupported_method {name : Text} {target : Expr} (pattern : Expr)
    (h : ∀ items, (name == containsName) = true → target = .constant (.list items) → False) :
    (Expr.method target name [pattern]).isSupported =
      ((wildcards? name).isSome && canMatch target pattern && target.isSupported && pattern.isSupported) := by
  by_cases htarget : ∃ items, target = .constant (.list items)
  · -- a list has no other function than that of its members, and is no target of a match
    obtain ⟨items, rfl⟩ := htarget
    have hname : (name == containsName) = false := by
      by_contra hname
      exact h items (by simpa using hname) rfl
    simp [isSupported, hname, canMatch]
  · rw [isSupported]
    exact fun items heq => htarget ⟨items, heq⟩

private theorem wildcards?_containsName : (wildcards? containsName).isSome = true := rfl

private theorem isSupported_method_of_unknown {receiver : Expr} {name : Text} {args : List Expr}
    (h : ∀ arg before after, args = [arg] → wildcards? name = some (before, after) → False) :
    (Expr.method receiver name args).isSupported = false := by
  have hwildcards (arg : Expr) (hargs : args = [arg]) : (wildcards? name).isSome = false := by
    rw [Option.isSome_eq_false_iff, Option.isNone_iff_eq_none, Option.eq_none_iff_forall_ne_some]
    exact fun w hw => h arg w.1 w.2 hargs hw
  unfold isSupported
  split
  · have hnone := hwildcards _ rfl
    have hname : (name == containsName) = false := by
      by_contra hname
      obtain rfl : name = containsName := by simpa using hname
      exact absurd wildcards?_containsName (by simp [hnone])
    simp [hname]
  · simp [hwildcards _ rfl]
  · rfl

/-- An expression has a text exactly if its parts are known and its columns declared. -/
theorem exists_textAt_iff (aliases : Aliases) (e : Expr) (place : Place) :
    (∃ t, e.textAt aliases place = .ok t) ↔ e.isSupported = true ∧ e.IsDeclared := by
  have herror {err : Error} : ¬∃ u, (.error err : Except Error Text) = .ok u := by simp
  have hbind {x : Except Error Text} {f : Text → Text} :
      (∃ u, (x >>= fun t => .ok (f t)) = .ok u) ↔ ∃ t, x = .ok t :=
    (exists_bind_ok_iff fun t => iff_of_true ⟨f t, rfl⟩ trivial).trans (and_iff_left trivial)
  fun_induction textAt aliases place e with
  | case1 => simp [isSupported, IsDeclared, columns]
  | case2 place entity name => exact iff_of_false herror fun h => h.2 entity name (List.mem_singleton_self _)
  | case3 place v => simp [exists_constantText_iff, isSupported, IsDeclared, columns]
  | case4 place e ih => exact ih
  | case5 place e ih => exact hbind.trans ih
  | case6 place e ih => exact hbind.trans ih
  | case7 place op left right hsymbol => exact iff_of_false herror (by simp [isSupported, hsymbol])
  | case8 place op left right symbol hsymbol ihleft ihright =>
    refine (exists_bind_ok_iff fun _ => hbind).trans ((and_congr ihleft ihright).trans ?_)
    rw [isDeclared_binary, isSupported, hsymbol, Option.isSome_some, Bool.true_and, Bool.and_eq_true]
    exact and_and_and_comm
  | case9 place e ih => exact ih
  | case10 place e ih => exact hbind.trans ih
  | case11 place item items ih =>
    refine (exists_bind_ok_iff fun col => exists_membershipText_iff col items).trans ((and_congr_left' ih).trans ?_)
    rw [isDeclared_call_list, isSupported, beq_self_eq_true, Bool.true_and, Bool.and_eq_true, and_right_comm]
    exact and_congr_left' and_comm
  | case12 place item collection hcollection =>
    exact iff_of_false herror (by simp [isSupported_call_of_ne hcollection])
  | case13 place name collection item hname =>
    refine iff_of_false herror fun h => hname ?_
    have hsupported := h.1
    unfold isSupported at hsupported
    split at hsupported
    · simp only [Bool.and_eq_true, beq_iff_eq] at hsupported
      exact hsupported.1.1
    · simp at hsupported
  | case14 place name args hargs => exact iff_of_false herror (by simp [isSupported_call_of_length hargs])
  | case15 place name item before after hwildcards items hname ih =>
    refine (exists_bind_ok_iff fun col => exists_membershipText_iff col items).trans ((and_congr_left' ih).trans ?_)
    rw [isDeclared_method_list, isSupported, hname, Bool.true_and, Bool.and_eq_true, and_right_comm]
    exact and_congr_left' and_comm
  | case16 place target name pattern before after hwildcards hmatch hlist ihtarget ihpattern =>
    rw [if_pos hmatch]
    refine (exists_bind_ok_iff fun _ => hbind).trans ((and_congr ihtarget ihpattern).trans ?_)
    rw [isDeclared_method, isSupported_method pattern hlist, hwildcards, hmatch, Option.isSome_some, Bool.true_and,
      Bool.true_and, Bool.and_eq_true]
    exact and_and_and_comm
  | case17 place target name pattern before after hwildcards hmatch hlist =>
    rw [if_neg hmatch]
    exact iff_of_false herror (by simp [isSupported_method pattern hlist, hmatch])
  | case18 place receiver name args hargs => exact iff_of_false herror (by simp [isSupported_method_of_unknown hargs])

private theorem failure?_bind_membershipText (x : Except Error Text) (items : List Value) :
    failure? (x >>= fun col => membershipText col items) =
      (failure? x).or ((Value.list items).leaves.findSome? Value.literalFault?) :=
  failure?_bind x fun col => failure?_membershipText col items

private theorem failure?_bind_bind_ok (x y : Except Error Text) (f : Text → Text → Text) :
    failure? (x >>= fun l => y >>= fun r => .ok (f l r)) = (failure? x).or (failure? y) :=
  failure?_bind x fun l => failure?_bind_ok y (f l)

-- The recursion follows that of the text: both texts are put together from parts in the same way, but for the aliases
-- of columns and the places of the parts.
/-- Neither the aliases nor the place of an expression have a part in why it has no text. -/
theorem failure?_textAt (aliases aliases' : Aliases) : ∀ (e : Expr) (place place' : Place),
    failure? (e.textAt aliases place) = failure? (e.textAt aliases' place')
  | .column _ _ _, _, _ => rfl
  | .unknownColumn _ _, _, _ => rfl
  | .constant v, place, place' => failure?_constantText place place' v
  | .unary .convert e, place, place' => failure?_textAt aliases aliases' e place place'
  | .unary .not e, _, _ => by
    rw [textAt, textAt, failure?_bind_ok, failure?_bind_ok, failure?_textAt aliases aliases' e {} {}]
  | .unary .negate e, _, _ => by
    rw [textAt, textAt, failure?_bind_ok, failure?_bind_ok, failure?_textAt aliases aliases' e {} {}]
  | .binary op left right, _, _ => by
    have hleft := failure?_textAt aliases aliases' left (.operand left) (.operand left)
    have hright := failure?_textAt aliases aliases' right (.operand right) (.operand right)
    rw [textAt, textAt]
    cases op.symbol? with
    | none => rfl
    | some symbol => rw [failure?_bind_bind_ok, failure?_bind_bind_ok, hleft, hright]
  | .optionalValue e, place, place' => failure?_textAt aliases aliases' e place place'
  | .hasValue e, _, _ => by
    rw [textAt, textAt, failure?_bind_ok, failure?_bind_ok,
      failure?_textAt aliases aliases' e (.operand e) (.operand e)]
  | .call name args, _, _ => by
    unfold textAt
    split
    · next collection item =>
      have hitem := failure?_textAt aliases aliases' item (.operand item) (.operand item)
      split
      · split
        · rw [failure?_bind_membershipText, failure?_bind_membershipText, hitem]
        · rfl
      · rfl
    · rfl
  | .method receiver name args, _, _ => by
    unfold textAt
    split
    · next arg before after hwildcards =>
      have hreceiver := failure?_textAt aliases aliases' receiver (.operand receiver) (.operand receiver)
      have hitem := failure?_textAt aliases aliases' arg (.operand arg) (.operand arg)
      have hpattern := failure?_textAt aliases aliases' arg (.pattern before after) (.pattern before after)
      split
      · rw [failure?_bind_membershipText, failure?_bind_membershipText, hitem]
      · split
        · rw [failure?_bind_bind_ok, failure?_bind_bind_ok, hreceiver, hpattern]
        · rfl
    · rfl

/-- An expression speaks of a column under the alias of its parameter. -/
def SpeaksOf (e : Expr) (aliases : Aliases) (col : Option Text × Text) : Prop :=
  ∃ param? type?, .column param? col.2 type? ∈ e.columns ∧ col.1 = param?.bind aliases.find?

end Expr

/-! ### The columns of a formula -/

mutual

/-- The columns of a formula with their aliases, in the order in which they are written. -/
def Formula.columns : Formula → List (Option Text × Text)
  | .column _ alias? name _ => [(alias?, name)]
  | .literal _ => []
  | .never => []
  | .not operand => operand.columns
  | .negate operand => operand.columns
  | .binary _ left right => left.columns ++ right.columns
  | .like target pattern => target.columns ++ pattern.columns
  | .anyIn tests => tests.columns

/-- The columns of memberships. -/
def Memberships.columns : Memberships → List (Option Text × Text)
  | .one item _ => item.columns
  | .or item _ rest => item.columns ++ rest.columns

end

private theorem columns_truthValue (role : Role) (f : Formula) : (role.truthValue f).columns = f.columns := by
  cases role with
  | operand => rfl
  | _ => exact List.append_nil f.columns

private theorem columns_column (role : Role) (alias? : Option Text) (name : Text) (type? : Option ScalarType) :
    (role.column alias? name type?).columns = [(alias?, name)] := by
  cases role with
  | pattern before after => rfl
  | _ =>
    unfold Role.column
    dsimp only
    split
    · rw [columns_truthValue]
      rfl
    · rfl

private theorem columns_of_constant? {role : Role} {v : Value} {f : Formula} (h : role.constant? v = some f) :
    f.columns = [] := by
  unfold Role.constant? at h
  split at h
  · rw [← Option.some.inj h, columns_truthValue]
    rfl
  · obtain ⟨l, -, rfl⟩ := Option.map_eq_some_iff.mp h
    cases role <;> rfl

private theorem mem_columns_ofBatches {item : Formula} {first : List Literal} {rest : List (List Literal)}
    {col : Option Text × Text} (h : col ∈ (Memberships.ofBatches item first rest).columns) : col ∈ item.columns := by
  induction rest generalizing first with
  | nil => exact h
  | cons second rest ih =>
    rcases List.mem_append.mp h with h | h
    · exact h
    · exact ih h

private theorem mem_columns_of_inValues? {items : List Value} {item f : Formula} (h : item.inValues? items = some f)
    {col : Option Text × Text} (hcol : col ∈ f.columns) : col ∈ item.columns := by
  obtain ⟨batches, -, rfl⟩ := Option.map_eq_some_iff.mp h
  cases batches with
  | nil => simp [Formula.membership, Formula.columns] at hcol
  | cons first rest => exact mem_columns_ofBatches hcol

private theorem Expr.SpeaksOf.mono {e e' : Expr} {aliases : Aliases} {col : Option Text × Text}
    (h : e.SpeaksOf aliases col) (hsubset : e.columns ⊆ e'.columns) : e'.SpeaksOf aliases col := by
  obtain ⟨param?, type?, hmem, halias⟩ := h
  exact ⟨param?, type?, hsubset hmem, halias⟩

/-- A formula has no columns but those that its expression speaks of. -/
theorem Expr.speaksOf_of_mem_columns {aliases : Aliases} {role : Role} {e : Expr} {f : Formula}
    (h : e.formula? aliases role = some f) {col : Option Text × Text} (hcol : col ∈ f.columns) :
    e.SpeaksOf aliases col := by
  fun_induction formula? aliases role e generalizing f with
  | case1 role param? name type? =>
    obtain rfl := Option.some.inj h
    rw [columns_column, List.mem_singleton] at hcol
    subst hcol
    exact ⟨param?, type?, List.mem_singleton_self _, rfl⟩
  | case2 => simp at h
  | case3 role v =>
    rw [columns_of_constant? h] at hcol
    simp at hcol
  | case4 role e ih => exact ih h hcol
  | case5 role e ih =>
    obtain ⟨g, hg, rfl⟩ := Option.map_eq_some_iff.mp h
    exact ih hg hcol
  | case6 role e ih =>
    obtain ⟨g, hg, rfl⟩ := Option.map_eq_some_iff.mp h
    exact ih hg hcol
  | case7 role op left right ihleft ihright =>
    obtain ⟨l, hl, h⟩ := Option.bind_eq_some_iff.mp h
    obtain ⟨r, hr, h⟩ := Option.bind_eq_some_iff.mp h
    obtain rfl := Option.some.inj h
    rcases List.mem_append.mp hcol with hcol | hcol
    · exact (ihleft hl hcol).mono (List.subset_append_left ..)
    · exact (ihright hr hcol).mono (List.subset_append_right ..)
  | case8 role e ih => exact ih h hcol
  | case9 role e ih =>
    obtain ⟨g, hg, rfl⟩ := Option.map_eq_some_iff.mp h
    rw [Formula.columns, Formula.columns, List.append_nil] at hcol
    exact ih hg hcol
  | case10 role items item ih =>
    obtain ⟨g, hg, h⟩ := Option.bind_eq_some_iff.mp h
    exact (ih hg (mem_columns_of_inValues? h hcol)).mono (by simp [columns, columnsOf])
  | case11 => simp at h
  | case12 => simp at h
  | case13 role items item ih =>
    obtain ⟨g, hg, h⟩ := Option.bind_eq_some_iff.mp h
    exact (ih hg (mem_columns_of_inValues? h hcol)).mono (by simp [columns, columnsOf])
  | case14 => simp at h
  | case15 role name target pattern htarget ihtarget ihpattern =>
    obtain ⟨⟨before, after⟩, -, h⟩ := Option.bind_eq_some_iff.mp h
    obtain ⟨l, hl, h⟩ := Option.bind_eq_some_iff.mp h
    obtain ⟨r, hr, h⟩ := Option.bind_eq_some_iff.mp h
    obtain rfl := Option.some.inj h
    rcases List.mem_append.mp hcol with hcol | hcol
    · exact (ihtarget hl hcol).mono (by simp [columns, columnsOf])
    · exact (ihpattern before after hr hcol).mono (by simp [columns, columnsOf])
  | case16 => simp at h

end EntityStore
