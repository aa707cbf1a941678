import EntityStore.Proofs.Query.Wildcards

/-!
# The expressions that can be written

The grammar of the expressions that have a text (`Expr.Accepted`).  Columns and operations always belong to it, save an
undeclared column and the operator that has no form; a constant belongs to it if it has a literal; and a function is
asked of a list for its members, or of an expression for a pattern that looks like one.

Whether and why an expression has no text depends on nothing but the expression: not on the aliases, and not on the
place where it stands (`Expr.accepted_decides`).  What is refused is refused because a value or an expression is not
supported.
-/

namespace EntityStore

/-! ### The grammar -/

/-- Whether a value can be an operand: it is not null, no bytes, no list, and no double that is not finite. -/
def Value.isOperand : Value → Bool
  | .null => false
  | .bytes _ => false
  | .list _ => false
  | .double d => d.isFinite
  | _ => true

namespace Expr

/-- The expressions that can be written. -/
inductive Accepted : Expr → Prop where
  | column {param? : Option Text} {name : Text} {type? : Option ScalarType} : Accepted (.column param? name type?)
  | constant {v : Value} (hv : v.isOperand = true) : Accepted (.constant v)
  | unary {op : UnaryOp} {e : Expr} (he : Accepted e) : Accepted (.unary op e)
  | binary {op : BinaryOp} {left right : Expr} (hop : op ≠ .coalesce) (hleft : Accepted left)
      (hright : Accepted right) : Accepted (.binary op left right)
  | optionalValue {e : Expr} (he : Accepted e) : Accepted (.optionalValue e)
  | hasValue {e : Expr} (he : Accepted e) : Accepted (.hasValue e)
  /-- A list is asked for a member. -/
  | member {items : List Value} {item : Expr} (hleaves : ∀ leaf ∈ (Value.list items).leaves, ∃ t, leaf.literal = .ok t)
      (hitem : Accepted item) : Accepted (.method (.constant (.list items)) containsName [item])
  /-- The same without a receiver: the list is an argument. -/
  | memberOf {items : List Value} {item : Expr}
      (hleaves : ∀ leaf ∈ (Value.list items).leaves, ∃ t, leaf.literal = .ok t) (hitem : Accepted item) :
      Accepted (.call containsName [.constant (.list items), item])
  /-- An expression is asked for a pattern. -/
  | pattern {receiver pattern : Expr} {name : Text} (hname : name ∈ [containsName, startsWithName, endsWithName])
      (hreceiver : Accepted receiver) (hpattern : Accepted pattern) (hshape : pattern.isPattern = true) :
      Accepted (.method receiver name [pattern])

end Expr

/-! ### What has a text is accepted, and what is accepted has one -/

theorem Value.isOperand_iff {v : Value} : v.isOperand = true ↔ ∃ t, v.literal = .ok t := by
  have hfault : v.isOperand = v.literalFault?.isNone := by
    cases v with
    | double d => by_cases hd : d.isFinite = true <;> simp [isOperand, literalFault?, hd]
    | _ => rfl
  rw [hfault, Option.isNone_iff_eq_none, ← v.failure?_literal, failure?_eq_none_iff]

theorem exists_constantText_iff_isOperand {place : Place} {v : Value} :
    (∃ t, constantText place v = .ok t) ↔ v.isOperand = true := by
  rw [exists_constantText_iff, ← exists_literal_iff, Value.isOperand_iff]

theorem exists_membershipText_iff_leaves {col : Text} {items : List Value} :
    (∃ t, membershipText col items = .ok t) ↔ ∀ leaf ∈ (Value.list items).leaves, ∃ t, leaf.literal = .ok t := by
  rw [exists_membershipText_iff, List.all_eq_true]
  exact forall₂_congr fun leaf _ => (exists_literal_iff leaf).symm

theorem BinaryOp.symbol?_eq_none_iff {op : BinaryOp} : op.symbol? = none ↔ op = .coalesce := by
  cases op <;> simp [symbol?]

theorem exists_wildcards?_iff {name : Text} :
    (∃ before after, wildcards? name = some (before, after)) ↔
      name ∈ [Expr.containsName, Expr.startsWithName, Expr.endsWithName] := by
  simp only [wildcards?, List.mem_cons, List.not_mem_nil, or_false]
  split_ifs <;> simp_all

namespace Expr

variable {aliases : Aliases} {place : Place} {e : Expr} {t : Text}

theorem accepted_of_textAt (h : e.textAt aliases place = .ok t) : e.Accepted := by
  fun_induction textAt aliases place e generalizing t with
  | case1 => exact .column
  | case2 => simp at h
  | case3 place v => exact .constant (exists_constantText_iff_isOperand.mp ⟨t, h⟩)
  | case4 place e ih => exact .unary (ih h)
  | case5 place e ih =>
    obtain ⟨u, hu, -⟩ := bind_eq_ok_iff.mp h
    exact .unary (ih hu)
  | case6 place e ih =>
    obtain ⟨u, hu, -⟩ := bind_eq_ok_iff.mp h
    exact .unary (ih hu)
  | case7 => simp at h
  | case8 place op left right symbol hsymbol ihleft ihright =>
    obtain ⟨l, hl, h⟩ := bind_eq_ok_iff.mp h
    obtain ⟨r, hr, -⟩ := bind_eq_ok_iff.mp h
    refine .binary (fun hop => ?_) (ihleft hl) (ihright hr)
    rw [BinaryOp.symbol?_eq_none_iff.mpr hop] at hsymbol
    simp at hsymbol
  | case9 place e ih => exact .optionalValue (ih h)
  | case10 place e ih =>
    obtain ⟨u, hu, -⟩ := bind_eq_ok_iff.mp h
    exact .hasValue (ih hu)
  | case11 place item items ih =>
    obtain ⟨col, hcol, h⟩ := bind_eq_ok_iff.mp h
    exact .memberOf (exists_membershipText_iff_leaves.mp ⟨t, h⟩) (ih hcol)
  | case12 => simp at h
  | case13 => simp at h
  | case14 => simp at h
  | case15 place name item before after hwildcards items hname ih =>
    obtain ⟨col, hcol, h⟩ := bind_eq_ok_iff.mp h
    obtain rfl : name = containsName := by simpa using hname
    exact .member (exists_membershipText_iff_leaves.mp ⟨t, h⟩) (ih hcol)
  | case16 place receiver name pattern before after hwildcards hmatch hlist ihreceiver ihpattern =>
    rw [if_pos hmatch] at h
    obtain ⟨l, hl, h⟩ := bind_eq_ok_iff.mp h
    obtain ⟨r, hr, -⟩ := bind_eq_ok_iff.mp h
    rw [canMatch_eq_isPattern (ne_list_of_textAt hl)] at hmatch
    exact .pattern (exists_wildcards?_iff.mp ⟨before, after, hwildcards⟩) (ihreceiver hl) (ihpattern hr) hmatch
  | case17 place receiver name pattern before after hwildcards hmatch hlist =>
    rw [if_neg hmatch] at h
    simp at h
  | case18 => simp at h

theorem Accepted.exists_textAt (h : e.Accepted) (aliases : Aliases) (place : Place) :
    ∃ t, e.textAt aliases place = .ok t := by
  induction h generalizing place with
  | column => exact ⟨_, rfl⟩
  | constant hv => exact exists_constantText_iff_isOperand.mpr hv
  | @unary op e he ih =>
    cases op with
    | convert => exact ih place
    | not =>
      obtain ⟨t, ht⟩ := ih {}
      exact ⟨_, bind_eq_ok_iff.mpr ⟨t, ht, rfl⟩⟩
    | negate =>
      obtain ⟨t, ht⟩ := ih {}
      exact ⟨_, bind_eq_ok_iff.mpr ⟨t, ht, rfl⟩⟩
  | @binary op left right hop hleft hright ihleft ihright =>
    obtain ⟨symbol, hsymbol⟩ : ∃ symbol, op.symbol? = some symbol := by
      rw [← Option.ne_none_iff_exists', Ne, BinaryOp.symbol?_eq_none_iff]
      exact hop
    obtain ⟨l, hl⟩ := ihleft (.operand left)
    obtain ⟨r, hr⟩ := ihright (.operand right)
    rw [textAt, hsymbol]
    exact ⟨_, bind_eq_ok_iff.mpr ⟨l, hl, bind_eq_ok_iff.mpr ⟨r, hr, rfl⟩⟩⟩
  | optionalValue he ih => exact ih place
  | @hasValue e he ih =>
    obtain ⟨t, ht⟩ := ih (.operand e)
    exact ⟨_, bind_eq_ok_iff.mpr ⟨t, ht, rfl⟩⟩
  | @member items item hleaves hitem ih =>
    obtain ⟨col, hcol⟩ := ih (.operand item)
    obtain ⟨t, ht⟩ := exists_membershipText_iff_leaves.mpr hleaves
    exact ⟨t, bind_eq_ok_iff.mpr ⟨col, hcol, ht⟩⟩
  | @memberOf items item hleaves hitem ih =>
    obtain ⟨col, hcol⟩ := ih (.operand item)
    obtain ⟨t, ht⟩ := exists_membershipText_iff_leaves.mpr hleaves
    exact ⟨t, bind_eq_ok_iff.mpr ⟨col, hcol, ht⟩⟩
  | @pattern receiver pattern name hname hreceiver hpattern hshape ihreceiver ihpattern =>
    obtain ⟨before, after, hwildcards⟩ := exists_wildcards?_iff.mpr hname
    obtain ⟨l, hl⟩ := ihreceiver (.operand receiver)
    obtain ⟨r, hr⟩ := ihpattern (.pattern before after)
    have hlist := ne_list_of_textAt hl
    rw [textAt_method hlist hwildcards, canMatch_eq_isPattern hlist, if_pos hshape]
    exact ⟨_, bind_eq_ok_iff.mpr ⟨l, hl, bind_eq_ok_iff.mpr ⟨r, hr, rfl⟩⟩⟩

end Expr

/-! ### What is refused is not supported -/

/-- Whether a failure is that of a value or an expression that statements do not know. -/
def Error.isUnsupported : Error → Bool
  | .unsupportedType _ => true
  | .unsupportedExpression _ => true
  | _ => false

theorem Error.isValidation_of_isUnsupported {err : Error} (h : err.isUnsupported = true) : err.isValidation = true := by
  cases err <;> first | rfl | simp [isUnsupported] at h

theorem Value.failsWith_literal (v : Value) : FailsWith Error.isUnsupported v.literal := by
  cases v with
  | double d =>
    rw [Value.literal]
    split
    · exact failsWith_ok _
    · exact failsWith_error rfl
  | null => exact failsWith_error rfl
  | bytes bs => exact failsWith_error rfl
  | list items => exact failsWith_error rfl
  | _ => exact failsWith_ok _

theorem Value.failsWith_literalBatches (v : Value) : FailsWith Error.isUnsupported v.literalBatches :=
  (failsWith_mapM failsWith_literal v.leaves).map _

private theorem failsWith_constantText (place : Place) (v : Value) :
    FailsWith Error.isUnsupported (constantText place v) := by
  unfold constantText
  split
  · exact failsWith_ok _
  · exact failsWith_error rfl
  · exact failsWith_error rfl
  · exact (Value.failsWith_literal _).map _

private theorem failsWith_membershipText (col : Text) (items : List Value) :
    FailsWith Error.isUnsupported (membershipText col items) :=
  (Value.failsWith_literalBatches _).map _

namespace Expr

-- The recursion follows that of the text.
theorem failsWith_textAt (aliases : Aliases) : ∀ (e : Expr) (place : Place),
    FailsWith Error.isUnsupported (e.textAt aliases place)
  | .column _ _ _, place => failsWith_ok _
  | .unknownColumn _ _, place => failsWith_error rfl
  | .constant v, place => failsWith_constantText place v
  | .unary .convert e, place => failsWith_textAt aliases e place
  | .unary .not e, place => (failsWith_textAt aliases e {}).bind fun _ => failsWith_ok _
  | .unary .negate e, place => (failsWith_textAt aliases e {}).bind fun _ => failsWith_ok _
  | .binary op left right, place => by
    unfold Expr.textAt
    split
    · exact failsWith_error rfl
    · exact (failsWith_textAt aliases left _).bind fun _ =>
        (failsWith_textAt aliases right _).bind fun _ => failsWith_ok _
  | .optionalValue e, place => failsWith_textAt aliases e place
  | .hasValue e, place => (failsWith_textAt aliases e _).bind fun _ => failsWith_ok _
  | .call name args, place => by
    unfold Expr.textAt
    split
    · next collection item =>
      split
      · split
        · exact (failsWith_textAt aliases item _).bind fun _ => failsWith_membershipText _ _
        · exact failsWith_error rfl
      · exact failsWith_error rfl
    · exact failsWith_error rfl
  | .method receiver name args, place => by
    unfold Expr.textAt
    split
    · next arg before after hwildcards =>
      split
      · exact (failsWith_textAt aliases arg _).bind fun _ => failsWith_membershipText _ _
      · next target _ _ _ =>
        split
        · exact (failsWith_textAt aliases target _).bind fun _ =>
            (failsWith_textAt aliases arg _).bind fun _ => failsWith_ok _
        · exact failsWith_error rfl
    · exact failsWith_error rfl

/-- Under all aliases and in every place an expression has a text exactly if it is accepted.  An expression that is not
has one and the same failure everywhere, and this says that a value or an expression is not supported. -/
theorem accepted_decides (e : Expr) :
    (∀ aliases place, (∃ t, e.textAt aliases place = .ok t) ↔ e.Accepted) ∧
      (∀ aliases aliases' place place' err, e.textAt aliases place = .error err →
        e.textAt aliases' place' = .error err ∧ err.isUnsupported = true) := by
  refine ⟨fun aliases place => ⟨?_, fun h => h.exists_textAt aliases place⟩, ?_⟩
  · rintro ⟨t, ht⟩
    exact accepted_of_textAt ht
  · intro aliases aliases' place place' err h
    have hfailure := failure?_textAt aliases aliases' e place place'
    rw [h, failure?_error] at hfailure
    exact ⟨failure?_eq_some_iff.mp hfailure.symm, e.failsWith_textAt aliases place err h⟩

end Expr

end EntityStore
