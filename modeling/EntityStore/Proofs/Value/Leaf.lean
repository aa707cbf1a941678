import EntityStore.Value.Basic

/-!
# The leaves of nested lists

A list may hold lists, and these lists again.  A path says where something stands in such a value: the position in
the outermost list, then the position in the list that stands there, and so on.  What a path leads to is a leaf if it
is no list itself, and a leaf is left of another if its path is smaller in the lexicographic order.

`Value.traverses_places` says that the leaves of a value, as literals are made of them, are all leaves that paths lead
to, each once and from left to right.
-/

namespace EntityStore.Value

/-- Whether a value is a list. -/
def isList : Value → Bool
  | .list _ => true
  | _ => false

/-- What stands at a path. -/
def at? (v : Value) : List Nat → Option Value
  | [] => some v
  | i :: path =>
    match v with
    | .list items => items[i]?.bind fun item => item.at? path
    | _ => none

/-- A path leads to a leaf. -/
structure LeafAt (v : Value) (path : List Nat) (leaf : Value) : Prop where
  at?_eq : v.at? path = some leaf
  isList_eq : leaf.isList = false

/-- All leaves of a value with their paths, from left to right. -/
structure Traverses (v : Value) (places : List (List Nat × Value)) : Prop where
  sorted : places.Pairwise fun a b => a.1 < b.1
  mem_iff : ∀ path leaf, (path, leaf) ∈ places ↔ v.LeafAt path leaf

mutual

/-- The leaves of a value with their paths. -/
def places : Value → List (List Nat × Value)
  | .list items => placesFrom 0 items
  | v => [([], v)]

/-- The leaves of items with their paths, given the position of the first item. -/
def placesFrom (i : Nat) : List Value → List (List Nat × Value)
  | [] => []
  | v :: rest => (places v).map (fun place => (i :: place.1, place.2)) ++ placesFrom (i + 1) rest

end

theorem leafAt_list_iff {items : List Value} {path : List Nat} {leaf : Value} :
    (list items).LeafAt path leaf ↔
      ∃ (i : Nat) (v : Value) (rest : List Nat), path = i :: rest ∧ items[i]? = some v ∧ v.LeafAt rest leaf := by
  constructor
  · rintro ⟨hat, hlist⟩
    cases path with
    | nil =>
      rw [at?] at hat
      rw [← Option.some.inj hat, isList] at hlist
      exact absurd hlist (by decide)
    | cons i rest =>
      rw [at?] at hat
      obtain ⟨v, hv, hleaf⟩ := Option.bind_eq_some_iff.mp hat
      exact ⟨i, v, rest, rfl, hv, hleaf, hlist⟩
  · rintro ⟨i, v, rest, rfl, hv, hat, hlist⟩
    refine ⟨?_, hlist⟩
    rw [at?, hv, Option.bind_some, hat]

theorem leafAt_iff_of_isList {v : Value} (h : v.isList = false) {path : List Nat} {leaf : Value} :
    v.LeafAt path leaf ↔ path = [] ∧ leaf = v := by
  constructor
  · rintro ⟨hat, -⟩
    cases path with
    | nil => exact ⟨rfl, (Option.some.inj hat).symm⟩
    | cons i rest => cases v <;> simp [at?, isList] at hat h
  · rintro ⟨rfl, rfl⟩
    exact ⟨rfl, h⟩

private theorem places_of_isList {v : Value} (h : v.isList = false) : v.places = [([], v)] := by
  cases v with
  | list items => simp [isList] at h
  | _ => rw [places]; simp

theorem leaves_of_isList {v : Value} (h : v.isList = false) : v.leaves = [v] := by
  cases v with
  | list items => simp [isList] at h
  | _ => rw [leaves]; simp

@[elab_as_elim]
private theorem nested_induction {motive : Value → Prop} (scalar : ∀ v, v.isList = false → motive v)
    (list : ∀ items, (∀ item ∈ items, motive item) → motive (.list items)) (v : Value) : motive v := by
  cases v with
  | list items => exact list items fun item hitem => nested_induction scalar list item
  | _ => exact scalar _ rfl
  termination_by sizeOf v
  decreasing_by
    have hsize := List.sizeOf_lt_of_mem hitem
    simp only [Value.list.sizeOf_spec]
    omega

/-! ### Every leaf has its place -/

private theorem mem_placesFrom {items : List Value}
    (hitems : ∀ item ∈ items, ∀ path leaf, (path, leaf) ∈ item.places ↔ item.LeafAt path leaf) (first : Nat)
    (path : List Nat) (leaf : Value) :
    (path, leaf) ∈ placesFrom first items ↔
      ∃ (i : Nat) (v : Value) (rest : List Nat),
        path = (first + i) :: rest ∧ items[i]? = some v ∧ v.LeafAt rest leaf := by
  induction items generalizing first with
  | nil => simp [placesFrom]
  | cons item items ih =>
    have hitem := hitems item (List.mem_cons_self ..)
    have hrest := ih (fun v hv => hitems v (List.mem_cons_of_mem item hv)) (first + 1)
    rw [placesFrom, List.mem_append, hrest, List.mem_map]
    constructor
    · rintro (⟨⟨rest, leaf'⟩, hmem, heq⟩ | ⟨i, v, rest, rfl, hv, hleaf⟩)
      · obtain ⟨rfl, rfl⟩ := Prod.mk.inj heq
        exact ⟨0, item, rest, rfl, rfl, (hitem rest leaf').mp hmem⟩
      · refine ⟨i + 1, v, rest, ?_, hv, hleaf⟩
        rw [Nat.add_assoc, Nat.add_comm 1 i]
    · rintro ⟨i, v, rest, rfl, hv, hleaf⟩
      cases i with
      | zero =>
        obtain rfl : item = v := by simpa using hv
        exact .inl ⟨(rest, leaf), (hitem rest leaf).mpr hleaf, rfl⟩
      | succ i =>
        refine .inr ⟨i, v, rest, ?_, by simpa using hv, hleaf⟩
        rw [Nat.add_assoc, Nat.add_comm 1 i]

private theorem mem_places (v : Value) (path : List Nat) (leaf : Value) :
    (path, leaf) ∈ v.places ↔ v.LeafAt path leaf := by
  induction v using nested_induction generalizing path leaf with
  | scalar v h => rw [places_of_isList h, List.mem_singleton, leafAt_iff_of_isList h, Prod.mk.injEq]
  | list items ih =>
    rw [places, mem_placesFrom ih 0, leafAt_list_iff]
    simp only [Nat.zero_add]

/-! ### Places go from left to right -/

private theorem sorted_placesFrom {items : List Value}
    (hitems : ∀ item ∈ items, item.places.Pairwise fun a b => a.1 < b.1) (first : Nat) :
    (placesFrom first items).Pairwise fun a b => a.1 < b.1 := by
  induction items generalizing first with
  | nil => exact List.Pairwise.nil
  | cons item items ih =>
    have hitem := hitems item (List.mem_cons_self ..)
    have hrest := ih (fun v hv => hitems v (List.mem_cons_of_mem item hv)) (first + 1)
    rw [placesFrom, List.pairwise_append, List.pairwise_map]
    refine ⟨hitem.imp fun hlt => List.cons_lt_cons_iff.mpr (.inr ⟨rfl, hlt⟩), hrest, ?_⟩
    -- a place of the first item starts with a smaller position than all places of the others
    intro a ha b hb
    obtain ⟨a', -, rfl⟩ := List.mem_map.mp ha
    obtain ⟨i, v, rest, hpath, -, -⟩ := (mem_placesFrom (fun v _ => mem_places v) (first + 1) b.1 b.2).mp hb
    rw [hpath]
    exact List.cons_lt_cons_iff.mpr (.inl (by omega))

private theorem sorted_places (v : Value) : v.places.Pairwise fun a b => a.1 < b.1 := by
  induction v using nested_induction with
  | scalar v h =>
    rw [places_of_isList h]
    exact List.pairwise_singleton _ _
  | list items ih =>
    rw [places]
    exact sorted_placesFrom ih 0

/-- The places of a value are those of all its leaves, from left to right. -/
theorem traverses_places (v : Value) : v.Traverses v.places :=
  ⟨sorted_places v, mem_places v⟩

/-! ### The leaves at the places -/

private theorem map_snd_placesFrom {items : List Value} (hitems : ∀ item ∈ items, item.places.map Prod.snd = item.leaves)
    (first : Nat) : (placesFrom first items).map Prod.snd = leavesOf items := by
  induction items generalizing first with
  | nil => rfl
  | cons item items ih =>
    have hitem := hitems item (List.mem_cons_self ..)
    have hrest := ih (fun v hv => hitems v (List.mem_cons_of_mem item hv)) (first + 1)
    rw [placesFrom, leavesOf, List.map_append, hrest, ← hitem, List.map_map]
    rfl

theorem map_snd_places (v : Value) : v.places.map Prod.snd = v.leaves := by
  induction v using nested_induction with
  | scalar v h => rw [places_of_isList h, leaves_of_isList h, List.map_singleton]
  | list items ih => rw [places, leaves, map_snd_placesFrom ih]

/-- A value is one of the leaves if and only if some path leads to it. -/
theorem mem_leaves_iff {v leaf : Value} : leaf ∈ v.leaves ↔ ∃ path, v.LeafAt path leaf := by
  rw [← map_snd_places, List.mem_map]
  constructor
  · rintro ⟨⟨path, leaf'⟩, hmem, rfl⟩
    exact ⟨path, (mem_places v path leaf').mp hmem⟩
  · rintro ⟨path, hleaf⟩
    exact ⟨(path, leaf), (mem_places v path leaf).mpr hleaf, rfl⟩

/-! ### The first leaf of some sort -/

/-- A search through the leaves ends at the leftmost one that it looks for. -/
theorem findSome?_leaves_iff {β : Type} {f : Value → Option β} {v : Value} {b : β} :
    v.leaves.findSome? f = some b ↔ ∃ path leaf, v.LeafAt path leaf ∧ f leaf = some b ∧
      ∀ path' leaf', path' < path → v.LeafAt path' leaf' → f leaf' = none := by
  have hsorted := sorted_places v
  rw [← map_snd_places, List.findSome?_map, List.findSome?_eq_some_iff]
  constructor
  · rintro ⟨before, ⟨path, leaf⟩, after, hplaces, hfound, hbefore⟩
    have hleaf := (mem_places v path leaf).mp (by rw [hplaces]; simp)
    refine ⟨path, leaf, hleaf, hfound, fun path' leaf' hlt hleaf' => ?_⟩
    have hmem := (mem_places v path' leaf').mpr hleaf'
    rw [hplaces] at hsorted hmem
    obtain ⟨-, hafter, -⟩ := List.pairwise_append.mp hsorted
    rcases List.mem_append.mp hmem with hmem | hmem
    · exact hbefore (path', leaf') hmem
    · rcases List.mem_cons.mp hmem with heq | hmem
      · obtain ⟨rfl, -⟩ := Prod.mk.inj heq
        exact absurd hlt (List.lt_irrefl _)
      · have hgt := (List.pairwise_cons.mp hafter).1 (path', leaf') hmem
        exact absurd hlt (List.lt_asymm hgt)
  · rintro ⟨path, leaf, hleaf, hfound, hleft⟩
    obtain ⟨before, after, hplaces⟩ := List.append_of_mem ((mem_places v path leaf).mpr hleaf)
    refine ⟨before, (path, leaf), after, hplaces, hfound, ?_⟩
    rintro ⟨path', leaf'⟩ hmem
    rw [hplaces] at hsorted
    have hlt := (List.pairwise_append.mp hsorted).2.2 (path', leaf') hmem (path, leaf) (List.mem_cons_self ..)
    exact hleft path' leaf' hlt ((mem_places v path' leaf').mp (by rw [hplaces]; simp [hmem]))

end EntityStore.Value
