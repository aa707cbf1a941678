import EntityStore.Access.Join
import EntityStore.Proofs.Query.Translation
import EntityStore.Proofs.Text.Numbers

/-!
# The members that predicates speak of

A predicate of a join names the members of its scope by handles: by their position, as the last member of an entity,
or as the member being joined.  Each handle means at most one member (`Handle.Means`).  A column that is taken from a
handle is that of the member which the handle means, if the member declares it (`Handle.col_of_means`), and otherwise
one that no statement can speak of (`Handle.col_of_unresolved`).

Parameters and members are numbered alike, so that the aliases of a scope take the parameter of a member to the alias
of the same member and to nothing else (`JoinScope.find?_aliases_iff`).
-/

namespace EntityStore

/-! ### Aliases -/

theorem memberAlias_injective : Function.Injective memberAlias :=
  fun _ _ h => Text.ofNat_injective (List.cons.inj h).2

/-- The name of the parameter for the member at a position. -/
def memberParam (index : Nat) : Text :=
  'p' :: Text.ofNat index

theorem memberParam_injective : Function.Injective memberParam :=
  fun _ _ h => Text.ofNat_injective (List.cons.inj h).2

private theorem lookup_map {α β : Type} [BEq β] (key : α → β) (value : α → β) (b : β) (as : List α) :
    List.lookup b (as.map fun a => (key a, value a)) = (as.find? fun a => b == key a).map value := by
  induction as with
  | nil => rfl
  | cons a as ih =>
    rw [List.map_cons, List.lookup_cons, List.find?_cons]
    split
    · rfl
    · exact ih

/-- The parameters of a scope stand for the members with the same number, and no other parameter has an alias. -/
theorem JoinScope.find?_aliases_iff (scope : JoinScope) (param tableAlias : Text) :
    scope.aliases.find? param = some tableAlias ↔
      ∃ i < scope.members.length, param = memberParam i ∧ tableAlias = memberAlias i := by
  have hlookup : scope.aliases.find? param =
      ((List.range scope.members.length).find? fun i => param == memberParam i).map memberAlias :=
    lookup_map memberParam memberAlias param _
  rw [hlookup, Option.map_eq_some_iff]
  constructor
  · rintro ⟨i, hi, rfl⟩
    have hparam := List.find?_some hi
    exact ⟨i, List.mem_range.mp (List.mem_of_find?_eq_some hi), by simpa using hparam, rfl⟩
  · rintro ⟨i, hi, rfl, rfl⟩
    refine ⟨i, ?_, rfl⟩
    cases hfind : (List.range scope.members.length).find? fun j => memberParam i == memberParam j with
    | none =>
      rw [List.find?_eq_none] at hfind
      exact absurd (beq_self_eq_true _) (hfind i (List.mem_range.mpr hi))
    | some j =>
      have hparam := List.find?_some hfind
      have hij : memberParam i = memberParam j := by simpa using hparam
      rw [memberParam_injective hij]

/-! ### Handles -/

/-- How a predicate names the member that a column belongs to. -/
inductive Handle where
  /-- The member at a position. -/
  | position (index : Nat)
  /-- The last member of an entity. -/
  | latest (e : Entity)
  /-- The member being joined. -/
  | joined

namespace Handle

/-- The parameter that a handle stands for. -/
def param (scope : JoinScope) : Handle → Param
  | position index => scope.at? index
  | latest e => scope.ofEntity e
  | joined => scope.last

/-- A handle means the member at a position. -/
inductive Means (scope : JoinScope) : Handle → Nat → Prop where
  | position {i : Nat} (hi : i < scope.members.length) : Means scope (.position i) i
  | latest {e : Entity} {i : Nat} (hi : scope.members[i]? = some e)
    (hlater : ∀ j, i < j → scope.members[j]? ≠ some e) : Means scope (.latest e) i
  | joined {i : Nat} (hi : i + 1 = scope.members.length) : Means scope .joined i

/-- Whether no member that the handle means declares a column: the position is beyond the scope, no member is of the
entity, or the column is none of the member's. -/
def Unresolved (scope : JoinScope) (handle : Handle) (name : Text) : Prop :=
  ∀ i e, handle.Means scope i → scope.members[i]? = some e → e.column? name = none

variable {scope : JoinScope}

theorem Means.lt_length {handle : Handle} {i : Nat} (h : handle.Means scope i) : i < scope.members.length := by
  cases h with
  | position hi => exact hi
  | latest hi _ => exact (List.getElem?_eq_some_iff.mp hi).1
  | joined hi => omega

private theorem at?_of_getElem? {i : Nat} {e : Entity} (h : scope.members[i]? = some e) :
    scope.at? i = ⟨i, e.name, e.columns⟩ := by
  rw [JoinScope.at?, h]

private theorem lastIndex?_eq_some_iff {e : Entity} {i : Nat} :
    scope.lastIndex? e = some i ↔ Means scope (.latest e) i := by
  -- the last member of an entity is the first one from the end
  have hmirror {r : Nat} (hr : r < scope.members.length) :
      scope.members.reverse[r]? = scope.members[scope.members.length - 1 - r]? := List.getElem?_reverse hr
  rw [JoinScope.lastIndex?, Option.map_eq_some_iff]
  constructor
  · rintro ⟨r, hr, rfl⟩
    obtain ⟨hlt, hat, hbefore⟩ := List.findIdx?_eq_some_iff_getElem.mp hr
    have hr : r < scope.members.length := by simpa using hlt
    refine .latest ?_ fun j hj heq => ?_
    · rw [← hmirror hr, List.getElem?_eq_getElem hlt]
      simpa using hat
    · have hlt := (List.getElem?_eq_some_iff.mp heq).1
      refine hbefore (scope.members.length - 1 - j) (by omega) ?_
      have hj : scope.members.reverse[scope.members.length - 1 - j]? = some e := by
        rw [hmirror (by omega), ← heq]
        congr 1
        omega
      simpa using (List.getElem?_eq_some_iff.mp hj).2
  · rintro (_ | ⟨hi, hlater⟩)
    have hlt := (List.getElem?_eq_some_iff.mp hi).1
    refine ⟨scope.members.length - 1 - i, ?_, by omega⟩
    refine List.findIdx?_eq_some_iff_getElem.mpr ⟨by simp; omega, ?_, fun r hr => ?_⟩
    · have hat := hmirror (r := scope.members.length - 1 - i) (by omega)
      rw [show scope.members.length - 1 - (scope.members.length - 1 - i) = i by omega, hi] at hat
      simpa using (List.getElem?_eq_some_iff.mp hat).2
    · have hne := hlater (scope.members.length - 1 - r) (by omega)
      rw [← hmirror (by omega)] at hne
      intro heq
      exact hne (List.getElem?_eq_some_iff.mpr ⟨by simp; omega, by simpa using heq⟩)

private theorem param_of_means {handle : Handle} {i : Nat} {e : Entity} (h : handle.Means scope i)
    (he : scope.members[i]? = some e) : handle.param scope = ⟨i, e.name, e.columns⟩ := by
  cases h with
  | position hi => exact at?_of_getElem? he
  | latest hi hlater =>
    rw [param, JoinScope.ofEntity, lastIndex?_eq_some_iff.mpr (.latest hi hlater)]
    exact at?_of_getElem? he
  | joined hi =>
    rw [param, JoinScope.last, ← hi, Nat.add_sub_cancel]
    exact at?_of_getElem? he

private theorem columns_of_not_means {handle : Handle} (h : ∀ i, ¬handle.Means scope i) :
    (handle.param scope).columns = [] := by
  cases handle with
  | position index =>
    have hout : scope.members[index]? = none :=
      List.getElem?_eq_none (Nat.le_of_not_lt fun hi => h index (.position hi))
    rw [param, JoinScope.at?, hout]
  | latest e =>
    cases hlast : scope.lastIndex? e with
    | none => rw [param, JoinScope.ofEntity, hlast]
    | some i => exact absurd (lastIndex?_eq_some_iff.mp hlast) (h i)
  | joined =>
    have hempty : scope.members = [] := by
      by_contra hne
      have hlength := List.length_pos_iff.mpr hne
      exact h (scope.members.length - 1) (.joined (by omega))
    rw [param, JoinScope.last, JoinScope.at?, hempty]
    rfl

/-- A declared column of the member that a handle means is that column of the member's parameter. -/
theorem col_of_means {handle : Handle} {i : Nat} {e : Entity} {c : Column} {name : Text}
    (h : handle.Means scope i) (he : scope.members[i]? = some e) (hc : e.column? name = some c) :
    (handle.param scope).col name = .column (some (memberParam i)) name (some c.type.scalar) := by
  have hname : c.name = name := by simpa using List.find?_some hc
  rw [Entity.column?] at hc
  rw [param_of_means h he, Param.col, hc, ← hname]
  rfl

theorem col_of_unresolved {handle : Handle} {name : Text} (h : handle.Unresolved scope name) :
    (handle.param scope).col name = .unknownColumn (handle.param scope).entity name := by
  have hnone : findColumn? (handle.param scope).columns name = none := by
    by_cases hmeans : ∃ i, handle.Means scope i
    · obtain ⟨i, hi⟩ := hmeans
      obtain ⟨e, he⟩ : ∃ e, scope.members[i]? = some e := ⟨_, List.getElem?_eq_getElem hi.lt_length⟩
      rw [param_of_means hi he]
      exact h i e hi he
    · rw [columns_of_not_means fun i hi => hmeans ⟨i, hi⟩]
      rfl
  rw [Param.col, hnone]

theorem means_or_unresolved (scope : JoinScope) (handle : Handle) (name : Text) :
    (∃ i e c, handle.Means scope i ∧ scope.members[i]? = some e ∧ e.column? name = some c) ∨
      handle.Unresolved scope name := by
  by_cases h : handle.Unresolved scope name
  · exact .inr h
  · simp only [Unresolved, not_forall] at h
    obtain ⟨i, e, hmeans, he, hc⟩ := h
    obtain ⟨c, hc⟩ := Option.ne_none_iff_exists'.mp hc
    exact .inl ⟨i, e, c, hmeans, he, hc⟩

end Handle

/-! ### Predicates over handles -/

/-- Whether a predicate takes all of its columns from handles. -/
def Expr.TakesColumnsFrom (e : Expr) (scope : JoinScope) : Prop :=
  ∀ col ∈ e.columns, ∃ (handle : Handle) (name : Text), col = (handle.param scope).col name

private theorem Param.columns_col (p : Param) (name : Text) : (p.col name).columns = [p.col name] := by
  rw [Param.col]
  split <;> rfl

/-- The usual predicate of a join compares the columns of two handles. -/
theorem Handle.takesColumnsFrom_binary (scope : JoinScope) (op : BinaryOp) (left right : Handle) (l r : Text) :
    (Expr.binary op ((left.param scope).col l) ((right.param scope).col r)).TakesColumnsFrom scope := by
  intro col hcol
  rw [Expr.columns, Param.columns_col, Param.columns_col, List.singleton_append, List.mem_pair] at hcol
  rcases hcol with rfl | rfl
  · exact ⟨left, l, rfl⟩
  · exact ⟨right, r, rfl⟩

namespace Expr.TakesColumnsFrom

variable {e : Expr} {scope : JoinScope}

private theorem isDeclared_iff (h : e.TakesColumnsFrom scope) :
    e.IsDeclared ↔ ¬∃ handle name, Handle.Unresolved scope handle name ∧ (handle.param scope).col name ∈ e.columns := by
  constructor
  · rintro hdeclared ⟨handle, name, hunresolved, hmem⟩
    rw [Handle.col_of_unresolved hunresolved] at hmem
    exact hdeclared _ _ hmem
  · intro hnone entity column hmem
    obtain ⟨handle, name, hcol⟩ := h _ hmem
    rcases handle.means_or_unresolved scope name with ⟨i, member, c, hmeans, hmember, hc⟩ | hunresolved
    · rw [Handle.col_of_means hmeans hmember hc] at hcol
      exact Expr.noConfusion hcol
    · exact hnone ⟨handle, name, hunresolved, hcol ▸ hmem⟩

/-- A predicate over handles has no text exactly if it is no truth value, some part of it is not known, or one of its
columns is not declared by the member that its handle means. -/
theorem exists_error_iff (h : e.TakesColumnsFrom scope) (aliases : Aliases) :
    (∃ err, e.predicateText aliases = .error err) ↔
      e.isBoolean = false ∨ e.isSupported = false ∨
        ∃ handle name, Handle.Unresolved scope handle name ∧ (handle.param scope).col name ∈ e.columns := by
  rw [exists_error_iff_not_ok, Expr.predicateText]
  cases hboolean : e.isBoolean with
  | false => simp
  | true =>
    rw [if_pos rfl, Expr.text, e.exists_textAt_iff, h.isDeclared_iff, not_and_or, not_not, Bool.not_eq_true]
    simp

/-- The columns that a predicate over handles speaks of are columns of the members that its handles mean, each under
the alias of its member. -/
theorem exists_means (h : e.TakesColumnsFrom scope) {col : Option Text × Text} (hcol : e.SpeaksOf scope.aliases col) :
    ∃ handle i member, Handle.Means scope handle i ∧ scope.members[i]? = some member ∧
      (handle.param scope).col col.2 ∈ e.columns ∧ col.1 = some (memberAlias i) ∧
      (member.column? col.2).isSome = true := by
  obtain ⟨param?, type?, hmem, halias⟩ := hcol
  obtain ⟨handle, name, hhandle⟩ := h _ hmem
  rcases handle.means_or_unresolved scope name with ⟨i, member, c, hmeans, hmember, hc⟩ | hunresolved
  · rw [Handle.col_of_means hmeans hmember hc] at hhandle
    obtain ⟨rfl, rfl, -⟩ := Expr.column.inj hhandle
    refine ⟨handle, i, member, hmeans, hmember, ?_, ?_, by rw [hc]; rfl⟩
    · rw [Handle.col_of_means hmeans hmember hc, ← hhandle]
      exact hmem
    · rw [halias]
      exact (scope.find?_aliases_iff _ _).mpr ⟨i, hmeans.lt_length, rfl, rfl⟩
  · rw [Handle.col_of_unresolved hunresolved] at hhandle
    exact Expr.noConfusion hhandle

end Expr.TakesColumnsFrom

end EntityStore
