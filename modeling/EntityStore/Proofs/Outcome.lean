import EntityStore.Error

/-!
# Outcomes

What it means that computations which can fail, one after the other, end with a result.
-/

namespace EntityStore

variable {ε α β : Type}

theorem bind_eq_ok_iff {x : Except ε α} {f : α → Except ε β} {b : β} :
    x >>= f = .ok b ↔ ∃ a, x = .ok a ∧ f a = .ok b := by
  cases x <;> simp [Bind.bind, Except.bind]

theorem exists_error_iff_not_ok {x : Except Error α} : (∃ err, x = .error err) ↔ ¬∃ a, x = .ok a := by
  cases x <;> simp

/-- The second of two computations succeeds or fails whatever the first ends with. -/
theorem exists_bind_ok_iff {x : Except Error α} {f : α → Except Error β} {p : Prop}
    (h : ∀ a, (∃ b, f a = .ok b) ↔ p) : (∃ b, x >>= f = .ok b) ↔ (∃ a, x = .ok a) ∧ p := by
  cases x with
  | ok a => exact (h a).trans (and_iff_right ⟨a, rfl⟩).symm
  | error err => exact iff_of_false (by simp [Bind.bind, Except.bind]) (by simp)

theorem map_eq_ok_iff {x : Except ε α} {f : α → β} {b : β} :
    x.map f = .ok b ↔ ∃ a, x = .ok a ∧ f a = b := by
  cases x <;> simp [Except.map]

theorem mapM_cons_eq_ok_iff {f : α → Except Error β} {a : α} {as : List α} {bs : List β} :
    (a :: as).mapM f = .ok bs ↔ ∃ b rest, f a = .ok b ∧ as.mapM f = .ok rest ∧ b :: rest = bs := by
  rw [List.mapM_cons, bind_eq_ok_iff]
  constructor
  · rintro ⟨b, hb, h⟩
    obtain ⟨rest, hrest, h⟩ := bind_eq_ok_iff.mp h
    exact ⟨b, rest, hb, hrest, Except.ok.inj h⟩
  · rintro ⟨b, rest, hb, hrest, rfl⟩
    exact ⟨b, hb, bind_eq_ok_iff.mpr ⟨rest, hrest, rfl⟩⟩

/-- Computations in order end with a result for each of them. -/
theorem mapM_eq_ok_iff {f : α → Except Error β} {as : List α} {bs : List β} :
    as.mapM f = .ok bs ↔
      bs.length = as.length ∧ ∀ (i : Nat) (a : α), as[i]? = some a → ∃ b, bs[i]? = some b ∧ f a = .ok b := by
  induction as generalizing bs with
  | nil =>
    rw [List.mapM_nil]
    constructor
    · intro h
      obtain rfl := Except.ok.inj h
      simp
    · rintro ⟨hlength, -⟩
      rw [List.length_eq_zero_iff.mp hlength]
      rfl
  | cons a as ih =>
    rw [mapM_cons_eq_ok_iff]
    constructor
    · rintro ⟨b, rest, hb, hrest, rfl⟩
      obtain ⟨hlength, hevery⟩ := ih.mp hrest
      refine ⟨by simp [hlength], fun i a' ha' => ?_⟩
      cases i with
      | zero => exact ⟨b, rfl, Option.some.inj ha' ▸ hb⟩
      | succ i => exact hevery i a' ha'
    · rintro ⟨hlength, hevery⟩
      cases bs with
      | nil => simp at hlength
      | cons b rest =>
        obtain ⟨b', hb', hb⟩ := hevery 0 a rfl
        obtain rfl := Option.some.inj hb'
        exact ⟨b, rest, hb, ih.mpr ⟨by simpa using hlength, fun i => hevery (i + 1)⟩, rfl⟩

/-! ### The failure of a computation -/

/-- The failure that a computation ends with. -/
def failure? : Except Error α → Option Error
  | .ok _ => none
  | .error err => some err

theorem failure?_eq_some_iff {x : Except Error α} {err : Error} : failure? x = some err ↔ x = .error err := by
  cases x <;> simp [failure?]

theorem failure?_eq_none_iff {x : Except Error α} : failure? x = none ↔ ∃ a, x = .ok a := by
  cases x <;> simp [failure?]

@[simp]
theorem failure?_ok (a : α) : failure? (.ok a) = none := rfl

@[simp]
theorem failure?_error (err : Error) : failure? (.error err : Except Error α) = some err := rfl

@[simp]
theorem failure?_map (x : Except Error α) (f : α → β) : failure? (x.map f) = failure? x := by
  cases x <;> rfl

/-- Of two computations the first failure is that of the first, if it fails, and otherwise that of the second. -/
theorem failure?_bind (x : Except Error α) {f : α → Except Error β} {err? : Option Error}
    (h : ∀ a, failure? (f a) = err?) : failure? (x >>= f) = (failure? x).or err? := by
  cases x with
  | error err => rfl
  | ok a => exact h a

theorem failure?_bind_ok (x : Except Error α) (f : α → β) : failure? (x >>= fun a => .ok (f a)) = failure? x := by
  cases x <;> rfl

/-- Computations in order end with the first failure among them. -/
theorem failure?_mapM (f : α → Except Error β) (as : List α) :
    failure? (as.mapM f) = as.findSome? fun a => failure? (f a) := by
  induction as with
  | nil => rfl
  | cons a as ih =>
    rw [List.mapM_cons, List.findSome?_cons, ← ih]
    cases f a with
    | error err => rfl
    | ok b => cases as.mapM f <;> rfl

/-- Computations in order fail with the first of them that fails. -/
theorem mapM_eq_error_iff {f : α → Except Error β} {as : List α} {err : Error} :
    as.mapM f = .error err ↔
      ∃ before a after, as = before ++ a :: after ∧ f a = .error err ∧ ∀ a' ∈ before, ∃ b, f a' = .ok b := by
  rw [← failure?_eq_some_iff, failure?_mapM, List.findSome?_eq_some_iff]
  simp only [failure?_eq_some_iff, failure?_eq_none_iff]

theorem exists_of_mapM_eq_error {f : α → Except Error β} {as : List α} {err : Error} (h : as.mapM f = .error err) :
    ∃ a ∈ as, f a = .error err := by
  rw [← failure?_eq_some_iff, failure?_mapM] at h
  obtain ⟨a, ha, hfails⟩ := List.exists_of_findSome?_eq_some h
  exact ⟨a, ha, failure?_eq_some_iff.mp hfails⟩

theorem exists_mapM_eq_error_iff {f : α → Except Error β} {as : List α} :
    (∃ err, as.mapM f = .error err) ↔ ∃ a ∈ as, ∃ err, f a = .error err := by
  constructor
  · rintro ⟨err, h⟩
    obtain ⟨a, ha, hfails⟩ := exists_of_mapM_eq_error h
    exact ⟨a, ha, err, hfails⟩
  · rintro ⟨a, ha, hfails⟩
    rw [exists_error_iff_not_ok] at hfails ⊢
    rintro ⟨bs, hbs⟩
    obtain ⟨i, hi⟩ := List.mem_iff_getElem?.mp ha
    obtain ⟨b, -, hb⟩ := (mapM_eq_ok_iff.mp hbs).2 i a hi
    exact hfails ⟨b, hb⟩

/-! ### The failures that are possible -/

/-- A computation fails, if at all, with failures of one sort. -/
def FailsWith (sort : Error → Bool) (x : Except Error α) : Prop :=
  ∀ err, x = .error err → sort err = true

variable {sort : Error → Bool}

theorem failsWith_ok (a : α) : FailsWith sort (.ok a) := by
  intro err h
  simp at h

theorem failsWith_error {err : Error} (h : sort err = true) : FailsWith sort (.error err : Except Error α) := by
  intro err' heq
  rw [← Except.error.inj heq]
  exact h

theorem FailsWith.bind {x : Except Error α} {f : α → Except Error β} (hx : FailsWith sort x)
    (hf : ∀ a, FailsWith sort (f a)) : FailsWith sort (x >>= f) := by
  cases x with
  | ok a => exact hf a
  | error err => exact failsWith_error (hx err rfl)

theorem FailsWith.mono {sort' : Error → Bool} {x : Except Error α} (hx : FailsWith sort x)
    (h : ∀ err, sort err = true → sort' err = true) : FailsWith sort' x :=
  fun err herr => h err (hx err herr)

theorem FailsWith.map {x : Except Error α} (hx : FailsWith sort x) (f : α → β) : FailsWith sort (x.map f) := by
  cases x with
  | ok a => exact failsWith_ok (f a)
  | error err => exact failsWith_error (hx err rfl)

theorem failsWith_mapM {f : α → Except Error β} (h : ∀ a, FailsWith sort (f a)) (as : List α) :
    FailsWith sort (as.mapM f) := by
  induction as with
  | nil => exact failsWith_ok []
  | cons a as ih =>
    rw [List.mapM_cons]
    exact (h a).bind fun b => ih.bind fun bs => failsWith_ok (b :: bs)

end EntityStore
