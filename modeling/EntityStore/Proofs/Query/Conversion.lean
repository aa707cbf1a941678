import EntityStore.Proofs.Query.Wildcards

/-!
# Changes of type leave no trace

An expression without its changes of type (`Expr.unconverted`) has the text that the expression has
(`Expr.text_unconverted`), and is a truth value if the expression is.  The converse fails: a change of type may hide a
list or a pattern from a function that takes it only as it is, so that the expression has no text although it would
have one without the change.
-/

namespace EntityStore

namespace Expr

mutual

/-- An expression with every change of type replaced by its operand. -/
def unconverted : Expr → Expr
  | .column param? name type? => .column param? name type?
  | .unknownColumn entity name => .unknownColumn entity name
  | .constant v => .constant v
  | .unary .convert e => e.unconverted
  | .unary .not e => .unary .not e.unconverted
  | .unary .negate e => .unary .negate e.unconverted
  | .binary op left right => .binary op left.unconverted right.unconverted
  | .optionalValue e => .optionalValue e.unconverted
  | .hasValue e => .hasValue e.unconverted
  | .call name args => .call name (unconvertedAll args)
  | .method receiver name args => .method receiver.unconverted name (unconvertedAll args)

/-- All expressions of a list without their changes of type. -/
def unconvertedAll : List Expr → List Expr
  | [] => []
  | e :: rest => e.unconverted :: unconvertedAll rest

end

mutual

/-- Whether an expression changes a type anywhere. -/
def hasConversion : Expr → Bool
  | .column _ _ _ => false
  | .unknownColumn _ _ => false
  | .constant _ => false
  | .unary op e => op == .convert || e.hasConversion
  | .binary _ left right => left.hasConversion || right.hasConversion
  | .optionalValue e => e.hasConversion
  | .hasValue e => e.hasConversion
  | .call _ args => anyHasConversion args
  | .method receiver _ args => receiver.hasConversion || anyHasConversion args

/-- Whether one of several expressions changes a type. -/
def anyHasConversion : List Expr → Bool
  | [] => false
  | e :: rest => e.hasConversion || anyHasConversion rest

end

mutual

theorem hasConversion_unconverted : ∀ e : Expr, e.unconverted.hasConversion = false
  | .column _ _ _ => rfl
  | .unknownColumn _ _ => rfl
  | .constant _ => rfl
  | .unary .convert e => by rw [unconverted, hasConversion_unconverted e]
  | .unary .not e => by rw [unconverted, hasConversion, hasConversion_unconverted e]; rfl
  | .unary .negate e => by rw [unconverted, hasConversion, hasConversion_unconverted e]; rfl
  | .binary _ left right => by
    rw [unconverted, hasConversion, hasConversion_unconverted left, hasConversion_unconverted right]; rfl
  | .optionalValue e => by rw [unconverted, hasConversion, hasConversion_unconverted e]
  | .hasValue e => by rw [unconverted, hasConversion, hasConversion_unconverted e]
  | .call _ args => by rw [unconverted, hasConversion, anyHasConversion_unconvertedAll args]
  | .method receiver _ args => by
    rw [unconverted, hasConversion, hasConversion_unconverted receiver, anyHasConversion_unconvertedAll args]; rfl

theorem anyHasConversion_unconvertedAll : ∀ args : List Expr, anyHasConversion (unconvertedAll args) = false
  | [] => rfl
  | e :: rest => by
    rw [unconvertedAll, anyHasConversion, hasConversion_unconverted e, anyHasConversion_unconvertedAll rest]; rfl

end

theorem isBoolean_unconverted : ∀ e : Expr, e.unconverted.isBoolean = e.isBoolean
  | .column _ _ _ => rfl
  | .unknownColumn _ _ => rfl
  | .constant _ => rfl
  | .unary .convert e => by rw [unconverted, isBoolean, isBoolean_unconverted e]
  | .unary .not _ => rfl
  | .unary .negate _ => rfl
  | .binary _ left right => by
    rw [unconverted, isBoolean, isBoolean, isBoolean_unconverted left, isBoolean_unconverted right]
  | .optionalValue e => by rw [unconverted, isBoolean, isBoolean, isBoolean_unconverted e]
  | .hasValue _ => rfl
  | .call _ _ => rfl
  | .method _ _ _ => rfl

theorem operand_unconverted (e : Expr) : Place.operand e.unconverted = Place.operand e := by
  rw [Place.operand, Place.operand, isBoolean_unconverted]

/-- What looks like a pattern is no change of type, and looks like a pattern without those inside it. -/
private theorem isPattern_unconverted {e : Expr} (h : e.isPattern = true) : e.unconverted.isPattern = true := by
  cases e with
  | constant v => rfl
  | column param? name type? => rfl
  | optionalValue e => rfl
  | _ => simp [isPattern] at h

/-- Without its changes of type an expression keeps its text. -/
theorem textAt_unconverted {aliases : Aliases} {place : Place} {e : Expr} {t : Text}
    (h : e.textAt aliases place = .ok t) : e.unconverted.textAt aliases place = .ok t := by
  fun_induction textAt aliases place e generalizing t with
  | case1 => exact h
  | case2 => exact h
  | case3 => exact h
  | case4 place e ih => exact ih h
  | case5 place e ih =>
    obtain ⟨u, hu, h⟩ := bind_eq_ok_iff.mp h
    rw [unconverted, textAt, ih hu]
    exact h
  | case6 place e ih =>
    obtain ⟨u, hu, h⟩ := bind_eq_ok_iff.mp h
    rw [unconverted, textAt, ih hu]
    exact h
  | case7 => simp at h
  | case8 place op left right symbol hsymbol ihleft ihright =>
    obtain ⟨l, hl, h⟩ := bind_eq_ok_iff.mp h
    obtain ⟨r, hr, h⟩ := bind_eq_ok_iff.mp h
    rw [unconverted, textAt, hsymbol]
    simp only [operand_unconverted, ihleft hl, ihright hr]
    exact h
  | case9 place e ih => exact ih h
  | case10 place e ih =>
    obtain ⟨u, hu, h⟩ := bind_eq_ok_iff.mp h
    rw [unconverted, textAt, operand_unconverted, ih hu]
    exact h
  | case11 place item items ih =>
    obtain ⟨col, hcol, h⟩ := bind_eq_ok_iff.mp h
    rw [unconverted, unconvertedAll, unconvertedAll, unconvertedAll, unconverted, textAt, if_pos rfl,
      operand_unconverted, ih hcol]
    exact h
  | case12 => simp at h
  | case13 => simp at h
  | case14 => simp at h
  | case15 place name item before after hwildcards items hname ih =>
    obtain ⟨col, hcol, h⟩ := bind_eq_ok_iff.mp h
    obtain rfl : name = containsName := by simpa using hname
    have hitem : item.unconverted.textAt aliases (.operand item.unconverted) = .ok col := by
      rw [operand_unconverted]
      exact ih hcol
    exact bind_eq_ok_iff.mpr ⟨col, hitem, h⟩
  | case16 place target name pattern before after hwildcards hmatch hlist ihtarget ihpattern =>
    rw [if_pos hmatch] at h
    obtain ⟨l, hl, h⟩ := bind_eq_ok_iff.mp h
    obtain ⟨r, hr, h⟩ := bind_eq_ok_iff.mp h
    have htarget := ihtarget hl
    -- neither the target nor what is left of it is a list, because both have texts
    have hne := ne_list_of_textAt htarget
    rw [canMatch_eq_isPattern (ne_list_of_textAt hl)] at hmatch
    have hpattern := isPattern_unconverted hmatch
    rw [← canMatch_eq_isPattern hne] at hpattern
    rw [unconverted, unconvertedAll, unconvertedAll, textAt_method hne hwildcards, if_pos hpattern,
      operand_unconverted, htarget]
    simp only [ihpattern hr]
    exact h
  | case17 place target name pattern before after hwildcards hmatch hlist =>
    rw [if_neg hmatch] at h
    simp at h
  | case18 => simp at h

/-- An expression that has a text has the same text without its changes of type, and is a truth value with them exactly
if it is one without. -/
theorem text_unconverted {aliases : Aliases} {e : Expr} {t : Text} (h : e.text aliases = .ok t) :
    e.unconverted.text aliases = .ok t ∧ e.unconverted.isBoolean = e.isBoolean ∧
      e.unconverted.hasConversion = false :=
  ⟨textAt_unconverted h, e.isBoolean_unconverted, e.hasConversion_unconverted⟩

/-- Changes of type around a target, and around a constant inside an optional value. -/
theorem text_unconverted_nested :
    let e : Expr := .method (.unary .convert (.column none "Name".toList none)) containsName
      [.optionalValue (.unary .convert (.constant (.string "a".toList)))]
    e.text [] = .ok "([Name] LIKE '%a%')".toList ∧
      (Expr.method (.column none "Name".toList none) containsName
        [.optionalValue (.constant (.string "a".toList))]).text [] = .ok "([Name] LIKE '%a%')".toList := by
  intro e
  have htext : e.text [] = .ok "([Name] LIKE '%a%')".toList := by rfl
  obtain ⟨hunconverted, -, -⟩ := text_unconverted htext
  exact ⟨htext, hunconverted⟩

/-- A pattern behind a change of type is refused, and the same pattern without it is not. -/
example :
    let e : Expr := .method (.column none "Name".toList none) containsName
      [.unary .convert (.constant (.string "a".toList))]
    (e.text []).isOk = false ∧ e.unconverted.text [] = .ok "([Name] LIKE '%a%')".toList :=
  ⟨rfl, rfl⟩

end Expr

end EntityStore
