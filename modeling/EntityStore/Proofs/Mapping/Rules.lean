import EntityStore.Mapping.Basic
import EntityStore.Proofs.Outcome
import Mathlib.Tactic.SplitIfs

/-!
# The rules of a field

The attributes of a field are read one after the other, and a later one replaces what an earlier one gave.  Taken
together they say that a field is skipped, or that its value is required, if one of them does; and the name of its
column and the greatest length of its text are the last ones given (`FieldDeclaration.isSkipped_rules` and those
after it).  How the attributes are spread over the text of the declaration does not matter, only their order.
-/

namespace EntityStore

/-! ### What the attributes say -/

namespace Attribute

/-- The name that an attribute gives to the column. -/
def column? (a : Attribute) : Option Text :=
  if a.key = "column".toList then a.textValue.toOption else none

/-- The greatest number of characters that an attribute allows. -/
def maxLength? (a : Attribute) : Option Nat :=
  if a.key = "max_len".toList then a.numberValue.toOption else none

end Attribute

namespace FieldDeclaration

/-- Whether one of the attributes of a field says that it is skipped. -/
def isSkipped (f : FieldDeclaration) : Bool :=
  f.attributes.any fun a => a.key == "skip".toList

/-- Whether one of the attributes of a field says that its value is required. -/
def isRequired (f : FieldDeclaration) : Bool :=
  f.attributes.any fun a => a.key == "required".toList

/-- The greatest number of characters of a field, the last that its attributes give. -/
def maxLength? (f : FieldDeclaration) : Option Nat :=
  (f.attributes.filterMap Attribute.maxLength?).getLast?

/-- The name of the column of a field: the last that its attributes give, and otherwise its own in upper camel case. -/
def columnName (f : FieldDeclaration) : Text :=
  (f.attributes.filterMap Attribute.column?).getLast?.getD (Text.upperCamel (bareName f.name))

end FieldDeclaration

/-! ### Reading them in order -/

namespace FieldRules

variable {rules rules' rules'' : FieldRules}

/-- Rules with what further attributes say. -/
private structure Extends (rules : FieldRules) (attributes : List Attribute) (rules' : FieldRules) : Prop where
  isSkipped : rules'.isSkipped = (rules.isSkipped || attributes.any fun a => a.key == "skip".toList)
  isRequired : rules'.isRequired = (rules.isRequired || attributes.any fun a => a.key == "required".toList)
  maxLength? : rules'.maxLength? = (attributes.filterMap Attribute.maxLength?).getLast?.or rules.maxLength?
  column? : rules'.column? = (attributes.filterMap Attribute.column?).getLast?.or rules.column?

private theorem Extends.refl (rules : FieldRules) : rules.Extends [] rules := by
  constructor <;> simp

private theorem Extends.trans {attributes more : List Attribute} (h : rules.Extends attributes rules')
    (h' : rules'.Extends more rules'') : rules.Extends (attributes ++ more) rules'' := by
  constructor
  · rw [h'.isSkipped, h.isSkipped, List.any_append, Bool.or_assoc]
  · rw [h'.isRequired, h.isRequired, List.any_append, Bool.or_assoc]
  · rw [h'.maxLength?, h.maxLength?, List.filterMap_append, List.getLast?_append, Option.or_assoc]
  · rw [h'.column?, h.column?, List.filterMap_append, List.getLast?_append, Option.or_assoc]

private theorem getLast?_filterMap_singleton {α β : Type} (f : α → Option β) (a : α) :
    ([a].filterMap f).getLast? = f a := by
  cases h : f a <;> simp [h]

private theorem extends_singleton {a : Attribute} {word : Text} (hkey : a.key = word)
    (hskipped : rules'.isSkipped = (rules.isSkipped || word == "skip".toList))
    (hrequired : rules'.isRequired = (rules.isRequired || word == "required".toList))
    (hlimit : rules'.maxLength? = (if word = "max_len".toList then a.numberValue.toOption else none).or rules.maxLength?)
    (hcolumn : rules'.column? = (if word = "column".toList then a.textValue.toOption else none).or rules.column?) :
    rules.Extends [a] rules' := by
  subst hkey
  refine ⟨?_, ?_, ?_, ?_⟩
  · rw [hskipped, List.any_cons, List.any_nil, Bool.or_false]
  · rw [hrequired, List.any_cons, List.any_nil, Bool.or_false]
  · rw [hlimit, getLast?_filterMap_singleton, Attribute.maxLength?]
  · rw [hcolumn, getLast?_filterMap_singleton, Attribute.column?]

/-- An attribute that is read changes what its word is about, and nothing else. -/
private theorem extends_apply {a : Attribute} (h : rules.apply a = .ok rules') : rules.Extends [a] rules' := by
  have hsame (b : Bool) : b = (b || false) := (Bool.or_false b).symm
  have hset (b : Bool) : true = (b || true) := (Bool.or_true b).symm
  unfold FieldRules.apply at h
  split_ifs at h with hid hidentity hskip hrequired hlimit hcolumn htype
  all_goals obtain ⟨value, hvalue, rfl⟩ := map_eq_ok_iff.mp h
  · exact extends_singleton hid (hsame _) (hsame _) rfl rfl
  · exact extends_singleton hidentity (hsame _) (hsame _) rfl rfl
  · exact extends_singleton hskip (hset _) (hsame _) rfl rfl
  · exact extends_singleton hrequired (hsame _) (hset _) rfl rfl
  · exact extends_singleton hlimit (hsame _) (hsame _) (by rw [if_pos rfl, hvalue]; rfl) rfl
  · exact extends_singleton hcolumn (hsame _) (hsame _) rfl (by rw [if_pos rfl, hvalue]; rfl)
  · exact extends_singleton htype (hsame _) (hsame _) rfl rfl

private theorem extends_foldlM {attributes : List Attribute}
    (h : attributes.foldlM FieldRules.apply rules = .ok rules') : rules.Extends attributes rules' := by
  induction attributes generalizing rules with
  | nil =>
    obtain rfl := Except.ok.inj h
    exact .refl rules
  | cons a attributes ih =>
    obtain ⟨next, hnext, h⟩ := bind_eq_ok_iff.mp h
    exact (extends_apply hnext).trans (ih h)

end FieldRules

namespace FieldDeclaration

variable {f : FieldDeclaration} {rules : FieldRules}

theorem isSkipped_rules (h : f.rules = .ok rules) : rules.isSkipped = f.isSkipped :=
  (FieldRules.extends_foldlM h).isSkipped

theorem isRequired_rules (h : f.rules = .ok rules) : rules.isRequired = f.isRequired :=
  (FieldRules.extends_foldlM h).isRequired

theorem maxLength?_rules (h : f.rules = .ok rules) : rules.maxLength? = f.maxLength? :=
  (FieldRules.extends_foldlM h).maxLength?.trans Option.or_none

/-- The column of a field has the name that its attributes give. -/
theorem column_mapped (h : f.rules = .ok rules) : (f.mapped rules).column = f.columnName := by
  have hcolumn := (FieldRules.extends_foldlM h).column?.trans Option.or_none
  exact congrArg (Option.getD · _) hcolumn

end FieldDeclaration

end EntityStore
