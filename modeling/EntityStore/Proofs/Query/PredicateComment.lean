import EntityStore.Proofs.Query.ClauseComment
import EntityStore.Proofs.Query.Translation
import EntityStore.Proofs.Value.Leaf

/-!
# Comment marks in predicates

What comes from outside into the text of an expression are the names of its columns, the aliases of its parameters
and the texts of its constants.  If none of these has a comment mark, the text has one at a single kind of place:
where a negation stands directly before a number with a sign of its own (`Expr.negatesNegative`), as two hyphens
then stand side by side.  All other parts are kept apart by parentheses, blanks, quotes and brackets, so that the
guard refuses exactly the texts with such a negation (`Expr.isSuspect_text_iff`).
-/

namespace EntityStore

/-- Whether the literal of a value has a sign in front. -/
def Value.isNegative : Value → Bool
  | .int i => decide (i.toInt < 0)
  | .decimal d => decide (d.mantissa < 0)
  | .double d => d.isNegative
  | _ => false

namespace Expr

mutual

/-- The texts from outside in an expression. -/
def inputs (aliases : Aliases) : Expr → List Text
  | .column param? name _ => (param?.bind aliases.find?).toList ++ [name]
  | .unknownColumn _ name => [name]
  | .constant v => v.leaves.filterMap Value.toText?
  | .unary _ e => e.inputs aliases
  | .binary _ left right => left.inputs aliases ++ right.inputs aliases
  | .optionalValue e => e.inputs aliases
  | .hasValue e => e.inputs aliases
  | .call _ args => inputsOf aliases args
  | .method receiver _ args => receiver.inputs aliases ++ inputsOf aliases args

/-- The texts from outside in expressions in order. -/
def inputsOf (aliases : Aliases) : List Expr → List Text
  | [] => []
  | e :: rest => e.inputs aliases ++ inputsOf aliases rest

end

/-- Whether an expression is written as a number with a sign in front. -/
def isNegativeNumber : Expr → Bool
  | .constant v => v.isNegative
  | .unary .convert e => e.isNegativeNumber
  | .optionalValue e => e.isNegativeNumber
  | _ => false

/-- Whether a negation stands directly before a number with a sign, in a part that is written.  A membership in an
empty list does not write its item. -/
def negatesNegative : Expr → Bool
  | .column _ _ _ => false
  | .unknownColumn _ _ => false
  | .constant _ => false
  | .unary .negate e => e.isNegativeNumber || e.negatesNegative
  | .unary _ e => e.negatesNegative
  | .binary _ left right => left.negatesNegative || right.negatesNegative
  | .optionalValue e => e.negatesNegative
  | .hasValue e => e.negatesNegative
  | .call _ args =>
    match args with
    | [.constant (.list items), item] => !(Value.list items).leaves.isEmpty && item.negatesNegative
    | _ => false
  | .method receiver _ args =>
    match receiver, args with
    | .constant (.list items), [item] => !(Value.list items).leaves.isEmpty && item.negatesNegative
    | target, [pattern] => target.negatesNegative || pattern.negatesNegative
    | _, _ => false

end Expr

/-! ### Signs -/

/-- What a text begins with: a hyphen in the one case, and a calm character, if any, in the other. -/
def Begins (negative : Bool) (t : Text) : Prop :=
  if negative then t.head? = some '-' else ∀ c ∈ t.head?, isCalm c = true

/-- A hyphen in front makes a mark with another hyphen and with nothing else. -/
theorem isUncommented_hyphen_iff {negative : Bool} {t : Text} (h : Begins negative t) :
    IsUncommented ('-' :: t) ↔ negative = false ∧ IsUncommented t := by
  cases negative with
  | false => exact (isUncommented_hyphen h).trans (and_iff_right rfl).symm
  | true =>
    cases t with
    | nil => cases h
    | cons c t =>
      obtain rfl : c = '-' := Option.some.inj h
      have hmark : ¬IsUncommented ('-' :: '-' :: t) := fun hclean => hclean.1 ⟨[], t, rfl⟩
      simp [hmark]

private theorem begins_of_isUnsignedNumeral {t : Text} (h : isUnsignedNumeral t = true) : Begins false t :=
  fun c hc => isCalm_of_isUnsignedNumeral h c (List.mem_of_mem_head? hc)

private theorem begins_ite (p : Prop) [Decidable p] {t : Text} (h : isUnsignedNumeral t = true) :
    Begins (decide p) (if p then '-' :: t else t) := by
  by_cases hp : p
  · rw [decide_eq_true hp, if_pos hp]
    rfl
  · rw [decide_eq_false hp, if_neg hp]
    exact begins_of_isUnsignedNumeral h

private theorem begins_ofInt (i : Int) : Begins (decide (i < 0)) (Text.ofInt i) := by
  cases i with
  | ofNat n => exact begins_of_isUnsignedNumeral (isUnsignedNumeral_ofNat n)
  | negSucc n =>
    rw [decide_eq_true (Int.negSucc_lt_zero n)]
    rfl

private theorem begins_decimal (d : Decimal) : Begins (decide (d.mantissa < 0)) d.toText :=
  begins_ite _ (isUnsignedNumeral_magnitudeText _ _)

private theorem begins_double {d : Double} (h : d.isFinite = true) : Begins d.isNegative d.toText := by
  have hnan : d.isNaN = false := by
    simp only [Double.isFinite, bne_iff_ne] at h
    simp [Double.isNaN, h]
  have hmagnitude :
      isUnsignedNumeral (if d.significand = 0 then ['0'] else Double.positional d.shortestDigits) = true := by
    split
    · decide
    · exact isUnsignedNumeral_positional _
  simp only [Double.toText, hnan, h, Double.withSign, Bool.not_true, Bool.false_eq_true, if_false]
  have hbegins := begins_ite (d.isNegative = true) hmagnitude
  rwa [Bool.decide_eq_true] at hbegins

/-- A literal begins with a sign only if it is a number. -/
theorem Value.begins_literal {v : Value} {t : Text} (h : v.literal = .ok t) : Begins v.isNegative t := by
  have hquote (u : Text) : Begins false u.quote := (clearIff_quote u).isCalm_head
  cases v with
  | null => cases h
  | bytes _ => cases h
  | list _ => cases h
  | bool b =>
    obtain rfl := Except.ok.inj h
    cases b <;> exact begins_of_isUnsignedNumeral (by decide)
  | int i =>
    obtain rfl := Except.ok.inj h
    exact begins_ofInt i.toInt
  | uint u =>
    obtain rfl := Except.ok.inj h
    exact begins_of_isUnsignedNumeral (isUnsignedNumeral_ofNat _)
  | decimal d =>
    obtain rfl := Except.ok.inj h
    exact begins_decimal d
  | double d =>
    rw [literal] at h
    by_cases hfinite : d.isFinite = true
    · rw [if_pos hfinite] at h
      obtain rfl := Except.ok.inj h
      exact begins_double hfinite
    · rw [if_neg hfinite] at h
      cases h
  | _ =>
    obtain rfl := Except.ok.inj h
    exact hquote _

/-! ### Columns and constants -/

theorem clearIff_bracketColumn (alias? : Option Text) (name : Text) :
    ClearIff (Text.bracketColumn alias? name) (∀ u ∈ alias?.toList ++ [name], IsUncommented u) := by
  cases alias? with
  | none => exact (clearIff_bracket name).congr (by simp)
  | some table =>
    have hname : ClearIff ('.' :: Text.bracket name) (IsUncommented name) :=
      clearIff_cons (by decide) (clearIff_bracket name).iff
    exact ((clearIff_bracket table).append hname).congr (by simp)

/-- A place whose wildcards are in no mark. -/
structure Place.IsCalm (place : Place) : Prop where
  before : ∀ c ∈ place.before, isCalm c = true
  after : ∀ c ∈ place.after, isCalm c = true

theorem Place.isCalm_operand (e : Expr) : (Place.operand e).IsCalm :=
  ⟨List.forall_mem_nil _, List.forall_mem_nil _⟩

theorem Place.isCalm_default : ({} : Place).IsCalm :=
  ⟨List.forall_mem_nil _, List.forall_mem_nil _⟩

theorem Place.isCalm_pattern {name before after : Text} (h : wildcards? name = some (before, after)) :
    (Place.pattern before after).IsCalm := by
  have hcalm : (∀ c ∈ before, isCalm c = true) ∧ ∀ c ∈ after, isCalm c = true := by
    unfold wildcards? at h
    split at h
    · obtain ⟨rfl, rfl⟩ := Prod.mk.inj (Option.some.inj h)
      decide
    · split at h
      · obtain ⟨rfl, rfl⟩ := Prod.mk.inj (Option.some.inj h)
        decide
      · split at h
        · obtain ⟨rfl, rfl⟩ := Prod.mk.inj (Option.some.inj h)
          decide
        · cases h
  exact ⟨hcalm.1, hcalm.2⟩

theorem clearIff_columnText (aliases : Aliases) (param? : Option Text) (name : Text) (type? : Option ScalarType)
    {place : Place} (hplace : place.IsCalm) :
    ClearIff (columnText aliases param? name type? place)
      (∀ u ∈ (param?.bind aliases.find?).toList ++ [name], IsUncommented u) := by
  have hcol := clearIff_bracketColumn (param?.bind aliases.find?) name
  have hquoted {wildcard : Text} (h : ∀ c ∈ wildcard, isCalm c = true) : ClearIff wildcard.quote True :=
    (clearIff_quote wildcard).congr (iff_true_intro (isUncommented_of_isCalm h))
  have hbefore : ClearIff (if place.before.isEmpty then [] else Text.quote place.before ++ ['+']) True := by
    split
    · exact clearIff_of_isCalm (List.forall_mem_nil _)
    · exact (hquoted hplace.before).append_calm (by decide)
  have hafter : ClearIff (if place.after.isEmpty then [] else '+' :: Text.quote place.after) True := by
    split
    · exact clearIff_of_isCalm (List.forall_mem_nil _)
    · exact clearIff_cons (by decide) (hquoted hplace.after).iff
  unfold columnText
  dsimp only
  split
  · exact ((hbefore.append hcol).append hafter).congr (by simp)
  · split
    · exact (clearIff_cons (by decide) hcol.iff).append_calm (by decide)
    · exact hcol

private theorem isUncommented_literal_of_content {v : Value} {t : Text} (h : v.literal = .ok t)
    (hinputs : ∀ u ∈ v.toText?, IsUncommented u) : IsUncommented t ∧ IsUncommented (unquoted t) := by
  refine ⟨(Value.isUncommented_literal h).mpr fun u hu => hinputs u (Value.toText?_of_freeText? hu), ?_⟩
  obtain ⟨l, hl, rfl⟩ := Value.literal_eq_ok_iff.mp h
  rw [unquoted_text]
  exact hinputs _ (Value.toText?_of_token? hl)

/-- A constant has no mark of its own, also as a pattern. -/
private theorem isUncommented_constantText {place : Place} (hplace : place.IsCalm) {v : Value} {t : Text}
    (h : constantText place v = .ok t) (hinputs : ∀ u ∈ v.leaves.filterMap Value.toText?, IsUncommented u) :
    IsUncommented t ∧ (place.hasWildcard = false → Begins v.isNegative t) := by
  unfold constantText at h
  split at h
  · next b =>
    have hword : ∀ c ∈ if b then "'True'".toList else "'False'".toList, isCalm c = true := by cases b <;> decide
    have hclear : ClearIff t True := by
      obtain rfl := Except.ok.inj h
      split
      · exact clearIff_of_isCalm hword
      · exact (clearIff_cons (by decide) (clearIff_of_isCalm hword).iff).append_calm (by decide)
    exact ⟨hclear.iff.mpr trivial, fun _ => hclear.isCalm_head⟩
  · cases h
  · cases h
  · next hbool hlist hnull =>
    have hscalar : v.isList = false := by
      cases v with
      | list items => exact (hlist items rfl).elim
      | _ => rfl
    rw [Value.leaves_of_isList hscalar] at hinputs
    obtain ⟨literal, hliteral, rfl⟩ := map_eq_ok_iff.mp h
    obtain ⟨hclean, hcontent⟩ := isUncommented_literal_of_content hliteral fun u hu =>
      hinputs u (List.mem_filterMap.mpr ⟨v, List.mem_singleton_self v, hu⟩)
    by_cases hwildcard : place.hasWildcard = true
    · rw [if_pos hwildcard]
      have hpattern : IsUncommented (place.before ++ unquoted literal ++ place.after) := by
        rw [isUncommented_append_calm hplace.after, isUncommented_calm_append hplace.before]
        exact hcontent
      exact ⟨(clearIff_quote _).iff.mpr hpattern, fun h => absurd hwildcard (by simp [h])⟩
    · rw [if_neg hwildcard]
      exact ⟨hclean, fun _ => Value.begins_literal hliteral⟩

/-- A membership has a mark only if its item has one and is written. -/
private theorem clearIff_membershipText {col t : Text} {items : List Value} (h : membershipText col items = .ok t)
    (hinputs : ∀ u ∈ (Value.list items).leaves.filterMap Value.toText?, IsUncommented u) :
    ClearIff t ((Value.list items).leaves = [] ∨ IsUncommented col) := by
  obtain ⟨batches, hbatches, rfl⟩ := map_eq_ok_iff.mp h
  have hfree : ∀ u ∈ (Value.list items).leaves.filterMap Value.freeText?, IsUncommented u := by
    intro u hu
    obtain ⟨leaf, hleaf, hu⟩ := List.mem_filterMap.mp hu
    exact hinputs u (List.mem_filterMap.mpr ⟨leaf, hleaf, Value.toText?_of_freeText? hu⟩)
  have htext : IsUncommented (batchesText col false batches) ↔
      (Value.list items).leaves = [] ∨ IsUncommented col := by
    have hclean := (Value.isUncommented_literalBatches hbatches).mpr hfree
    rw [isUncommented_batchesText, and_iff_left hclean, Value.literalBatches_eq_nil_iff hbatches]
  dsimp only
  split
  · exact clearIff_parenthesized htext
  · next hlength =>
    match batches with
    | [] => simp at hlength
    | [batch] => simp at hlength
    | first :: second :: rest => exact ⟨fun c hc => Option.some.inj hc ▸ (by decide : isCalm '(' = true), htext⟩

/-! ### Expressions -/

namespace Expr

/-- What can be said of the text of an expression whose inputs have no marks. -/
structure Written (place : Place) (e : Expr) (t : Text) : Prop where
  iff : IsUncommented t ↔ e.negatesNegative = false
  begins : place.hasWildcard = false → Begins e.isNegativeNumber t

private theorem written_of_clearIff {place : Place} {e : Expr} {t : Text} (h : ClearIff t (e.negatesNegative = false))
    (hnumber : e.isNegativeNumber = false) : Written place e t :=
  ⟨h.iff, fun _ => hnumber ▸ h.isCalm_head⟩

private theorem isUncommented_symbol {op : BinaryOp} {symbol : Text} (h : op.symbol? = some symbol) :
    IsUncommented symbol := by
  cases op with
  | coalesce => cases h
  | _ =>
    obtain rfl := Option.some.inj h
    decide

private theorem written_membership {place place' : Place} {e item : Expr} {items : List Value} {col t : Text}
    (h : membershipText col items = .ok t)
    (hinputs : ∀ u ∈ (Value.list items).leaves.filterMap Value.toText?, IsUncommented u)
    (hitem : Written place' item col) (hnumber : e.isNegativeNumber = false)
    (he : e.negatesNegative = (!(Value.list items).leaves.isEmpty && item.negatesNegative)) : Written place e t := by
  refine written_of_clearIff ((clearIff_membershipText h hinputs).congr ?_) hnumber
  rw [he, hitem.iff, Bool.and_eq_false_iff, Bool.not_eq_false', List.isEmpty_iff]

private theorem negatesNegative_method {target pattern : Expr} {name : Text} (h : canMatch target pattern = true) :
    (Expr.method target name [pattern]).negatesNegative = (target.negatesNegative || pattern.negatesNegative) := by
  rw [negatesNegative]
  rintro items rfl
  exact absurd h (by simp [canMatch])

/-- The text of an expression whose inputs have no marks. -/
theorem written_textAt {aliases : Aliases} {place : Place} {e : Expr} {t : Text}
    (h : e.textAt aliases place = .ok t) (hplace : place.IsCalm)
    (hinputs : ∀ input ∈ e.inputs aliases, IsUncommented input) : Written place e t := by
  -- by the cases of the translation: all but the negation enclose their parts in calm characters
  fun_induction textAt aliases place e generalizing t with
  | case1 place param? name type? =>
    obtain rfl := Except.ok.inj h
    have hcolumn := clearIff_columnText aliases param? name type? hplace
    exact written_of_clearIff (hcolumn.congr (iff_of_true hinputs rfl)) rfl
  | case2 place entity name => cases h
  | case3 place v =>
    obtain ⟨hclean, hbegins⟩ := isUncommented_constantText hplace h hinputs
    exact ⟨iff_of_true hclean rfl, hbegins⟩
  | case4 place e ih =>
    have hw := ih h hplace hinputs
    exact ⟨hw.iff, hw.begins⟩
  | case5 place e ih =>
    obtain ⟨u, hu, h⟩ := bind_eq_ok_iff.mp h
    obtain rfl := Except.ok.inj h
    have hoperand := ih hu Place.isCalm_default hinputs
    have htext : ClearIff ("(NOT ".toList ++ u) _ := clearIff_calm_append (by decide) (by decide) hoperand.iff
    exact written_of_clearIff (htext.append_calm (by decide)) rfl
  | case6 place e ih =>
    obtain ⟨u, hu, h⟩ := bind_eq_ok_iff.mp h
    obtain rfl := Except.ok.inj h
    have hoperand := ih hu Place.isCalm_default hinputs
    -- nothing stands between the sign and the operand, so what the operand begins with decides
    have hsign := (isUncommented_hyphen_iff (hoperand.begins rfl)).trans (and_congr_right fun _ => hoperand.iff)
    refine written_of_clearIff ((clearIff_parenthesized hsign).congr ?_) rfl
    rw [negatesNegative, Bool.or_eq_false_iff]
  | case7 place op left right hsymbol => cases h
  | case8 place op left right symbol hsymbol ihleft ihright =>
    obtain ⟨l, hl, h⟩ := bind_eq_ok_iff.mp h
    obtain ⟨r, hr, h⟩ := bind_eq_ok_iff.mp h
    obtain rfl := Except.ok.inj h
    obtain ⟨hinputsleft, hinputsright⟩ := List.forall_mem_append.mp hinputs
    have hleft := clearIff_cons (c := '(') (by decide) (ihleft hl (Place.isCalm_operand left) hinputsleft).iff
    have hright := clearIff_cons (c := ' ') (by decide) (ihright hr (Place.isCalm_operand right) hinputsright).iff
    have hoperator := clearIff_cons (c := ' ') (by decide) (iff_true_intro (isUncommented_symbol hsymbol))
    refine written_of_clearIff ((((hleft.append hoperator).append hright).append_calm (by decide)).congr ?_) rfl
    rw [and_true, negatesNegative, Bool.or_eq_false_iff]
  | case9 place e ih =>
    have hw := ih h hplace hinputs
    exact ⟨hw.iff, hw.begins⟩
  | case10 place e ih =>
    obtain ⟨u, hu, h⟩ := bind_eq_ok_iff.mp h
    obtain rfl := Except.ok.inj h
    have hoperand := ih hu (Place.isCalm_operand e) hinputs
    exact written_of_clearIff ((clearIff_cons (by decide) hoperand.iff).append_calm (by decide)) rfl
  | case11 place item items ih =>
    obtain ⟨col, hcol, h⟩ := bind_eq_ok_iff.mp h
    obtain ⟨hlist, hitem⟩ := List.forall_mem_append.mp hinputs
    rw [inputsOf, inputsOf, List.append_nil] at hitem
    exact written_membership h hlist (ih hcol (Place.isCalm_operand item) hitem) rfl rfl
  | case12 place item collection hcollection => cases h
  | case13 place name collection item hname => cases h
  | case14 place name args hargs => cases h
  | case15 place name item before after hwildcards items hname ih =>
    obtain ⟨col, hcol, h⟩ := bind_eq_ok_iff.mp h
    obtain ⟨hlist, hitem⟩ := List.forall_mem_append.mp hinputs
    rw [inputsOf, inputsOf, List.append_nil] at hitem
    exact written_membership h hlist (ih hcol (Place.isCalm_operand item) hitem) rfl rfl
  | case16 place target name pattern before after hwildcards hmatch hlist ihtarget ihpattern =>
    rw [if_pos hmatch] at h
    obtain ⟨l, hl, h⟩ := bind_eq_ok_iff.mp h
    obtain ⟨r, hr, h⟩ := bind_eq_ok_iff.mp h
    obtain rfl := Except.ok.inj h
    obtain ⟨htarget, hpattern⟩ := List.forall_mem_append.mp hinputs
    rw [inputsOf, inputsOf, List.append_nil] at hpattern
    have hleft := clearIff_cons (c := '(') (by decide) (ihtarget hl (Place.isCalm_operand target) htarget).iff
    have hright : ClearIff (" LIKE ".toList ++ r) (pattern.negatesNegative = false) :=
      clearIff_calm_append (by decide) (by decide) (ihpattern hr (Place.isCalm_pattern hwildcards) hpattern).iff
    rw [List.append_assoc ('(' :: l)]
    refine written_of_clearIff (((hleft.append hright).append_calm (by decide)).congr ?_) rfl
    rw [negatesNegative_method hmatch, Bool.or_eq_false_iff]
  | case17 place target name pattern before after hwildcards hmatch hlist =>
    rw [if_neg hmatch] at h
    cases h
  | case18 place receiver name args hargs => cases h

/-- If no column, alias or constant of an expression has a comment mark, then the guard refuses its text if and only
if a negation stands directly before a number with a sign. -/
theorem isSuspect_text_iff {aliases : Aliases} {e : Expr} {t : Text} (h : e.text aliases = .ok t)
    (hinputs : ∀ input ∈ e.inputs aliases, IsUncommented input) :
    Guard.isSuspect t = true ↔ e.negatesNegative = true := by
  rw [Guard.isSuspect_iff, (written_textAt h Place.isCalm_default hinputs).iff, Bool.not_eq_false]

/-- Signs one behind the other are apart unless a negation meets the sign of a number. -/
theorem isSuspect_text_iff_signs :
    let e : Expr := .binary .subtract (.unary .negate (.unary .negate (.column none "a-".toList none)))
      (.constant (.int (-5)))
    e.text [] = .ok "((-(-[a-])) - -5)".toList ∧
      (Guard.isSuspect "((-(-[a-])) - -5)".toList = true ↔ e.negatesNegative = true) := by
  intro e
  have htext : e.text [] = .ok "((-(-[a-])) - -5)".toList := by rfl
  have hinputs : e.inputs [] = ["a-".toList, "-5".toList] := by rfl
  have hclean : ∀ input ∈ e.inputs [], IsUncommented input := by
    rw [hinputs]
    decide
  exact ⟨htext, isSuspect_text_iff htext hclean⟩

/-- The negation of a negative number begins a comment, although no input has a mark. -/
theorem isSuspect_text_negation :
    let e : Expr := .binary .lessThan (.column none "CustomerId".toList (some .int32))
      (.unary .negate (.constant (.int (-5))))
    (∀ input ∈ e.inputs [], IsUncommented input) ∧ e.text [] = .ok "([CustomerId] < (--5))".toList ∧
      Guard.isSuspect "([CustomerId] < (--5))".toList = true := by
  intro e
  have hinputs : e.inputs [] = ["CustomerId".toList, "-5".toList] := by rfl
  have hclean : ∀ input ∈ e.inputs [], IsUncommented input := by
    rw [hinputs]
    decide
  exact ⟨hclean, by rfl, by decide⟩

end Expr

end EntityStore
