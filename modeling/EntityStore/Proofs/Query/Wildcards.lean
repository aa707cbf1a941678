import EntityStore.Proofs.Query.Translation

/-!
# Wildcards of pattern matches

A matching function puts wildcards around its argument: inside the string of a constant, or beside a column.  Optional
values and changes of type leave no trace in a text, so what the wildcards come to stand around is the core of the
argument (`Expr.core`).

A column takes the wildcards, and so does a constant, unless it is a truth value.  Of the other arguments all are
refused but those that are an optional value on the outside: these are written as they are, and the wildcards are lost
(`Expr.wildcards_decided`).
-/

namespace EntityStore

/-- The matching functions with the wildcards before and after their argument. -/
def matchers : List (Text × Text × Text) :=
  [(Expr.containsName, ['%'], ['%']), (Expr.startsWithName, [], ['%']), (Expr.endsWithName, ['%'], [])]

namespace Expr

/-- What an expression is but for optional values and changes of type. -/
def core : Expr → Expr
  | .unary .convert e => e.core
  | .optionalValue e => e.core
  | e => e

/-- Whether an expression is a column or a constant other than a truth value at its core. -/
def takesWildcards (e : Expr) : Bool :=
  match e.core with
  | .column _ _ _ => true
  | .constant (.bool _) => false
  | .constant _ => true
  | _ => false

/-- Whether an expression looks like a pattern from the outside. -/
def isPattern : Expr → Bool
  | .constant _ => true
  | .column _ _ _ => true
  | .optionalValue _ => true
  | _ => false

/-- A pattern as it is read has the wildcards around an expression: it is one string, with the text of a constant
between them, or a column with the wildcards joined to it. -/
inductive Carries (aliases : Aliases) (before after : Text) : Expr → Formula → Prop
  | constant {v : Value} {content : Text} (h : v.toText? = some content) :
      Carries aliases before after (.constant v) (.literal (.string (before ++ content ++ after)))
  | column {param? : Option Text} {name : Text} {type? : Option ScalarType} :
      Carries aliases before after (.column param? name type?)
        (.column before (param?.bind aliases.find?) name after)

end Expr

/-! ### Patterns as they are read -/

theorem wildcards?_of_mem_matchers {name before after : Text} (h : (name, before, after) ∈ matchers) :
    wildcards? name = some (before, after) := by
  simp only [matchers, List.mem_cons, Prod.mk.injEq, List.not_mem_nil, or_false] at h
  rcases h with ⟨rfl, rfl, rfl⟩ | ⟨rfl, rfl, rfl⟩ | ⟨rfl, rfl, rfl⟩ <;> rfl

namespace Expr

variable {aliases : Aliases} {before after : Text}

/-- The core of an expression means what the expression means. -/
theorem formula?_core (aliases : Aliases) (role : Role) (e : Expr) :
    e.core.formula? aliases role = e.formula? aliases role := by
  fun_induction core e with
  | case1 e ih => exact ih
  | case2 e ih => exact ih
  | case3 => rfl

private theorem carries_constant {v : Value} {f : Formula} (hbool : ∀ b, v ≠ .bool b)
    (h : (Role.pattern before after).constant? v = some f) : Carries aliases before after (.constant v) f := by
  have hliteral : v.token?.map (Role.pattern before after).literal = some f := by
    rwa [Role.constant?] at h
    exact hbool
  obtain ⟨l, hl, rfl⟩ := Option.map_eq_some_iff.mp hliteral
  exact .constant (Value.toText?_of_token? hl)

/-- What a pattern means has the wildcards around its core, exactly if the core takes them. -/
theorem carries_iff_takesWildcards {e : Expr} {f : Formula}
    (h : e.formula? aliases (.pattern before after) = some f) :
    Carries aliases before after e.core f ↔ e.takesWildcards = true := by
  rw [← formula?_core] at h
  unfold takesWildcards
  cases hcore : e.core with
  | column param? name type? =>
    rw [hcore] at h
    obtain rfl := Option.some.inj h
    exact iff_of_true .column rfl
  | constant v =>
    rw [hcore] at h
    by_cases hbool : ∃ b, v = .bool b
    · -- a truth value is compared with one
      obtain ⟨b, rfl⟩ := hbool
      obtain rfl := Option.some.inj h
      refine iff_of_false ?_ (by simp)
      intro hcarries
      cases hcarries
    · have hne : ∀ b, v ≠ .bool b := fun b hb => hbool ⟨b, hb⟩
      refine iff_of_true (carries_constant hne h) ?_
      split <;> simp_all
  | _ =>
    refine iff_of_false ?_ (by simp)
    intro hcarries
    cases hcarries

/-! ### Pattern matches -/

section Matches

variable {receiver : Expr} (hlist : ∀ items, receiver ≠ .constant (.list items))

include hlist

theorem canMatch_eq_isPattern (pattern : Expr) : canMatch receiver pattern = pattern.isPattern := by
  unfold canMatch
  split
  · next items => exact absurd rfl (hlist items)
  · rfl
  · rfl
  · rfl
  · next hconstant hcolumn hoptional =>
    cases pattern <;> first | rfl | simp_all

private theorem formula?_matcher {name : Text} (hwildcards : wildcards? name = some (before, after)) {pattern : Expr}
    {h : Formula} (hformula : (Expr.method receiver name [pattern]).formula? aliases .alone = some h) :
    ∃ f g, receiver.formula? aliases .operand = some f ∧ pattern.formula? aliases (.pattern before after) = some g ∧
      h = .like f g := by
  rw [formula?] at hformula
  · simp only [hwildcards, Option.bind_eq_bind, Option.bind_some] at hformula
    obtain ⟨f, hf, hformula⟩ := Option.bind_eq_some_iff.mp hformula
    obtain ⟨g, hg, hformula⟩ := Option.bind_eq_some_iff.mp hformula
    exact ⟨f, g, hf, hg, (Option.some.inj hformula).symm⟩
  · exact fun items heq => hlist items heq

/-- What becomes of the wildcards of a matching function.  In a text they stand around the core of the argument exactly
if it is a column or a constant, and no truth value.  An argument that does not look like a pattern from the outside is
refused, and what does look like one is refused only if it or the receiver has no text by itself. -/
theorem wildcards_decided {name : Text} (hname : (name, before, after) ∈ matchers) (aliases : Aliases)
    (pattern : Expr) :
    (∀ t, (Expr.method receiver name [pattern]).text aliases = .ok t →
      ∃ f g, Formula.read? t = some (.like f g) ∧ receiver.formula? aliases .operand = some f ∧
        (Carries aliases before after pattern.core g ↔ pattern.takesWildcards = true)) ∧
    (pattern.isPattern = false → (Expr.method receiver name [pattern]).text aliases =
      .error (.unsupportedExpression (.pattern receiver.describe pattern.describe))) ∧
    (pattern.isPattern = true → failure? ((Expr.method receiver name [pattern]).text aliases) =
      (failure? (receiver.text aliases)).or (failure? (pattern.text aliases))) := by
  have hwildcards : wildcards? name = some (before, after) := wildcards?_of_mem_matchers hname
  have hmatch : canMatch receiver pattern = pattern.isPattern := canMatch_eq_isPattern hlist pattern
  have htext := textAt_method hlist hwildcards aliases {} pattern
  refine ⟨fun t ht => ?_, fun hshape => ?_, fun hshape => ?_⟩
  · obtain ⟨h, hformula, -⟩ := exists_writes_text ht
    obtain ⟨f, g, hf, hg, rfl⟩ := formula?_matcher hlist hwildcards hformula
    exact ⟨f, g, read?_of_text ht hformula, hf, carries_iff_takesWildcards hg⟩
  · rw [text, htext, hmatch, hshape]
    rfl
  · rw [text, htext, hmatch, if_pos hshape, text, text, failure?_textAt aliases aliases receiver {} (.operand receiver),
      failure?_textAt aliases aliases pattern {} (.pattern before after)]
    cases receiver.textAt aliases (.operand receiver) with
    | error err => rfl
    | ok target => cases pattern.textAt aliases (.pattern before after) <;> rfl

end Matches

/-- A constant with a wildcard and a quote in it, inside an optional value. -/
theorem wildcards_decided_quoted :
    let e : Expr := .method (.column none "Name".toList none) endsWithName
      [.optionalValue (.constant (.string "50%'s".toList))]
    e.text [] = .ok "([Name] LIKE '%50%''s')".toList ∧
      ∃ f g, Formula.read? "([Name] LIKE '%50%''s')".toList = some (.like f g) ∧
        Carries [] ['%'] [] (.constant (.string "50%'s".toList)) g := by
  intro e
  have htext : e.text [] = .ok "([Name] LIKE '%50%''s')".toList := by rfl
  have hlist : ∀ items, Expr.column none "Name".toList none ≠ .constant (.list items) := fun _ => Expr.noConfusion
  have hname : (endsWithName, ['%'], []) ∈ matchers := by simp [matchers]
  obtain ⟨hread, -, -⟩ := wildcards_decided hlist hname [] (.optionalValue (.constant (.string "50%'s".toList)))
  obtain ⟨f, g, hlike, -, hcarries⟩ := hread _ htext
  exact ⟨htext, f, g, hlike, hcarries.mpr rfl⟩

/-- A truth value and the optional value of a sum are written without the wildcards. -/
theorem not_carries_truthValue_sum :
    let target : Formula := .column [] none "Name".toList []
    let name : Expr := .column none "Name".toList none
    let sum : Expr := .binary .add (.column none "a".toList none) (.column none "b".toList none)
    ((Expr.method name containsName [.constant (.bool true)]).text [] =
        .ok "([Name] LIKE ('True' = 1))".toList ∧
      ∃ g, Formula.read? "([Name] LIKE ('True' = 1))".toList = some (.like target g) ∧
        ¬Carries [] ['%'] ['%'] (.constant (.bool true)) g) ∧
    ((Expr.method name containsName [.optionalValue sum]).text [] = .ok "([Name] LIKE ([a] + [b]))".toList ∧
      ∃ g, Formula.read? "([Name] LIKE ([a] + [b]))".toList = some (.like target g) ∧
        ¬Carries [] ['%'] ['%'] sum g) := by
  intro target name sum
  have htruth : (Expr.method name containsName [.constant (.bool true)]).text [] =
      .ok "([Name] LIKE ('True' = 1))".toList := by rfl
  have hsum : (Expr.method name containsName [.optionalValue sum]).text [] = .ok "([Name] LIKE ([a] + [b]))".toList := by
    rfl
  refine ⟨⟨htruth, _, read?_of_text htruth rfl, ?_⟩, ⟨hsum, _, read?_of_text hsum rfl, ?_⟩⟩
  · intro hcarries
    cases hcarries
  · show ¬Carries [] ['%'] ['%'] (.binary .add _ _) _
    intro hcarries
    cases hcarries

end Expr

end EntityStore
