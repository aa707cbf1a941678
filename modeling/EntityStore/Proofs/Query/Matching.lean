import EntityStore.Proofs.Query.Evaluation
import EntityStore.Proofs.Query.Wildcards
import EntityStore.Proofs.Sql.Pattern

/-!
# What matching functions find

The functions `contains`, `starts_with` and `ends_with` ask for a substring, a prefix and a suffix.  They are written as
pattern matches with the text that is looked for as a part of the pattern, so that a character of the text which is a
sign of patterns is not looked for itself.  A function finds what it asks for, in whatever cell and however characters
are compared, if and only if the text is plain (`Matcher.finds_iff_isPlain`).
-/

namespace EntityStore

/-! ### Substrings, prefixes and suffixes -/

/-- A function that looks for a text. -/
inductive Matcher where
  | contains
  | startsWith
  | endsWith

namespace Matcher

def name : Matcher → Text
  | contains => Expr.containsName
  | startsWith => Expr.startsWithName
  | endsWith => Expr.endsWithName

/-- What a function says of the text that it looks for and the text that it looks into. -/
def Finds : Matcher → Text → Text → Prop
  | contains, v, s => v <:+: s
  | startsWith, v, s => v <+: s
  | endsWith, v, s => v <:+ s

/-- The wildcard before the text that a function looks for. -/
def before : Matcher → Text
  | startsWith => []
  | _ => ['%']

/-- The wildcard after the text that a function looks for. -/
def after : Matcher → Text
  | endsWith => []
  | _ => ['%']

variable {m : Matcher} {v s : Text}

theorem wildcards?_name (m : Matcher) : wildcards? m.name = some (m.before, m.after) := by
  cases m <;> rfl

theorem finds_rfl : m.Finds v v := by
  cases m with
  | contains => exact List.infix_rfl
  | startsWith => exact List.prefix_rfl
  | endsWith => exact List.suffix_rfl

/-- What is found in a text that is no longer is the text itself. -/
theorem Finds.eq_of_length_le (h : m.Finds v s) (hlength : s.length ≤ v.length) : v = s := by
  cases m with
  | contains => exact List.IsInfix.eq_of_length_le h hlength
  | startsWith => exact List.IsPrefix.eq_of_length_le h hlength
  | endsWith => exact List.IsSuffix.eq_of_length_le h hlength

theorem finds_map_iff {f : Char → Char} : m.Finds v (s.map f) ↔ ∃ t, m.Finds t s ∧ v = t.map f := by
  cases m with
  | contains => exact List.infix_map_iff
  | startsWith => exact List.prefix_map_iff
  | endsWith => exact List.suffix_map_iff

/-- The pattern of a function stands for the texts in which the function finds what the text alone stands for. -/
theorem accepts_pattern_iff {κ : Collation} :
    κ.accepts (Pattern.read (m.before ++ v ++ m.after)) s = true ↔
      ∃ t, m.Finds t s ∧ κ.accepts (Pattern.read v) t = true := by
  have hbefore (u : Text) : Pattern.read ('%' :: u) = .anyRun :: Pattern.read u := by rw [Pattern.read]
  cases m with
  | contains =>
    have hpattern : before contains ++ v ++ after contains = '%' :: (v ++ ['%']) := rfl
    rw [hpattern, hbefore, Pattern.read_append_percent, Collation.accepts_anyRun_iff]
    simp only [Collation.accepts_append_anyRun_iff]
    constructor
    · rintro ⟨u, hu, t, ht, haccepts⟩
      exact ⟨t, List.infix_iff_prefix_suffix.mpr ⟨u, ht, hu⟩, haccepts⟩
    · rintro ⟨t, ht, haccepts⟩
      obtain ⟨u, htu, hu⟩ := List.infix_iff_prefix_suffix.mp ht
      exact ⟨u, hu, t, htu, haccepts⟩
  | startsWith =>
    have hpattern : before startsWith ++ v ++ after startsWith = v ++ ['%'] := rfl
    rw [hpattern, Pattern.read_append_percent, Collation.accepts_append_anyRun_iff]
    rfl
  | endsWith =>
    have hpattern : before endsWith ++ v ++ after endsWith = '%' :: v := by simp [before, after]
    rw [hpattern, hbefore, Collation.accepts_anyRun_iff]
    rfl

/-- The pattern of a function stands for the texts in which the text itself is found, if and only if the text is
plain. -/
theorem accepts_pattern_iff_finds_iff (m : Matcher) (κ : Collation) (v : Text) :
    (∀ s, κ.accepts (Pattern.read (m.before ++ v ++ m.after)) s = true ↔
      m.Finds (v.map κ.fold) (s.map κ.fold)) ↔ Pattern.IsPlain v := by
  simp only [accepts_pattern_iff]
  constructor
  · intro h
    -- the text is found in itself, so that the pattern stands for something
    have hsatisfied : ∃ t, κ.accepts (Pattern.read v) t = true := by
      obtain ⟨t, -, ht⟩ := (h v).mpr finds_rfl
      exact ⟨t, ht⟩
    obtain ⟨t, ht, hlength, hplain⟩ := Collation.hasDeviation_of_accepts hsatisfied
    have hfinds : m.Finds (v.map κ.fold) (t.map κ.fold) := (h t).mp ⟨t, finds_rfl, ht⟩
    apply hplain
    apply hfinds.eq_of_length_le
    rw [List.length_map, List.length_map]
    exact hlength
  · intro hplain s
    rw [finds_map_iff]
    simp only [Collation.accepts_plain_iff hplain]

end Matcher

/-! ### Matches evaluated on a row -/

/-- The valuation of the same row in which the matches of texts with patterns are those of a collation. -/
def Valuation.matching (ν : Valuation Text) (κ : Collation) : Valuation Text :=
  { ν with
    operation := fun
      | .like target (.literal (.string pattern)) =>
        match ν.operand target with
        | none => .unknown
        | some s => .ofBool (κ.accepts (Pattern.read pattern) s)
      | f => ν.operation f }

/-- The valuation of a row in which every operand has the same text. -/
def Valuation.ofText (s : Text) : Valuation Text where
  equals _ _ := false
  cell _ _ := some s
  operand _ := some s
  test _ _ _ := .unknown
  operation _ := .unknown

theorem Valuation.formula_matching_eq_holds_iff {ν : Valuation Text} {κ : Collation} {target : Formula}
    {pattern s : Text} (h : ν.operand target = some s) :
    (ν.matching κ).formula (.like target (.literal (.string pattern))) = .holds ↔
      κ.accepts (Pattern.read pattern) s = true := by
  have hformula : (ν.matching κ).formula (.like target (.literal (.string pattern))) =
      .ofBool (κ.accepts (Pattern.read pattern) s) := by
    simp only [Valuation.formula, Valuation.matching, h]
  rw [hformula]
  cases κ.accepts (Pattern.read pattern) s <;> simp [Truth.ofBool]

namespace Matcher

/-- The call of a function on a column and a text. -/
def call (m : Matcher) (param? : Option Text) (column : Text) (type? : Option ScalarType) (v : Text) : Expr :=
  .method (.column param? column type?) m.name [.constant (.string v)]

/-- A function is written as a match of the column with the text between the wildcards of the function. -/
theorem exists_read?_call (m : Matcher) (aliases : Aliases) (param? : Option Text) (column : Text)
    (type? : Option ScalarType) (v : Text) :
    ∃ t, (m.call param? column type? v).text aliases = .ok t ∧
      Formula.read? t = some (.like (.column [] (param?.bind aliases.find?) column [])
        (.literal (.string (m.before ++ v ++ m.after)))) := by
  have hlist : ∀ items, Expr.column param? column type? ≠ .constant (.list items) := fun _ => Expr.noConfusion
  have hbool : ∀ b, Value.string v ≠ .bool b := fun _ => Value.noConfusion
  have hmatch : canMatch (.column param? column type?) (.constant (.string v)) = true := rfl
  have htext : ∃ t, (m.call param? column type? v).text aliases = .ok t := by
    rw [call, Expr.text, Expr.textAt_method hlist m.wildcards?_name, if_pos hmatch]
    simp only [Expr.textAt, constantText_of_token? hbool rfl]
    exact ⟨_, rfl⟩
  have hcolumn : Role.operand.column (param?.bind aliases.find?) column type? =
      .column [] (param?.bind aliases.find?) column [] := by
    by_cases htype : type? = some .bool <;> simp [Role.column, Role.truthValue, htype]
  have hformula : (m.call param? column type? v).formula? aliases .alone =
      some (.like (.column [] (param?.bind aliases.find?) column [])
        (.literal (.string (m.before ++ v ++ m.after)))) := by
    rw [call, Expr.formula?]
    · simp only [m.wildcards?_name, Option.bind_eq_bind, Option.bind_some, Expr.formula?, hcolumn]
      rfl
    · exact hlist
  obtain ⟨t, ht⟩ := htext
  exact ⟨t, ht, Expr.read?_of_text ht hformula⟩

/-- A function holds of a cell exactly if it finds the text in the cell, case aside, whatever the cell: this is so if
and only if the text is plain. -/
theorem finds_iff_isPlain (m : Matcher) (κ : Collation) (aliases : Aliases) (param? : Option Text) (column : Text)
    (type? : Option ScalarType) (v : Text) :
    ∃ t f, (m.call param? column type? v).text aliases = .ok t ∧ Formula.read? t = some f ∧
      ((∀ (ν : Valuation Text) (s : Text), ν.operand (.column [] (param?.bind aliases.find?) column []) = some s →
        ((ν.matching κ).formula f = .holds ↔ m.Finds (v.map κ.fold) (s.map κ.fold))) ↔ Pattern.IsPlain v) := by
  obtain ⟨t, ht, hread⟩ := m.exists_read?_call aliases param? column type? v
  refine ⟨t, _, ht, hread, ?_⟩
  rw [← accepts_pattern_iff_finds_iff m κ v]
  constructor
  · intro h s
    rw [← h (.ofText s) s rfl, Valuation.formula_matching_eq_holds_iff rfl]
  · intro h ν s hs
    rw [Valuation.formula_matching_eq_holds_iff hs, h s]

/-- A percentage is looked for, and found in a text without the sign. -/
theorem not_finds_percentage :
    let e : Expr := .method (.column none "Name".toList none) Expr.containsName [.constant (.string "50%".toList)]
    e.text [] = .ok "([Name] LIKE '%50%%')".toList ∧
      ∃ f, Formula.read? "([Name] LIKE '%50%%')".toList = some f ∧
        ((Valuation.ofText "500".toList).matching .ignoringCase).formula f = .holds ∧
        ¬"50%".toList.map Char.toLower <:+: "500".toList.map Char.toLower := by
  intro e
  have htext : e.text [] = .ok "([Name] LIKE '%50%%')".toList := by rfl
  have hpattern : Pattern.read "%50%%".toList = [.anyRun, .char '5', .char '0', .anyRun, .anyRun] := by
    simp [Pattern.read]
  refine ⟨htext, _, Expr.read?_of_text htext rfl, ?_, by decide⟩
  show ((Valuation.ofText _).matching _).formula (.like _ (.literal (.string "%50%%".toList))) = .holds
  rw [Valuation.formula_matching_eq_holds_iff rfl, hpattern]
  decide

end Matcher

end EntityStore
