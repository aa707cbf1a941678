import EntityStore.Proofs.Text.Doubling
import EntityStore.Query.Guard
import Mathlib.Data.List.Chain

/-!
# Comment marks

A text has no comment mark if no two neighbouring characters form one (`isUncommented_iff_isChain`).  Whether a text
that was put together has a mark is then a question about its parts and about the places where they meet.  Where one
of the two characters that meet is neither a hyphen nor a slash nor an asterisk, a calm one, there is nothing to ask:
marks stand in one of the parts or nowhere.  Parts that begin with a calm character can therefore be put side by side
(`ClearIff.append`).

Quotes and brackets are calm.  Writing them twice neither makes a mark nor tears one apart (`isUncommented_doubled`),
and so the guard, which looks at the text with its quotes doubled, finds exactly the marks of the text itself
(`Guard.isSuspect_iff`).
-/

namespace EntityStore

/-- No mark that begins or ends a comment stands in a text. -/
def IsUncommented (sql : Text) : Prop :=
  ¬"--".toList <:+: sql ∧ ¬"/*".toList <:+: sql ∧ ¬"*/".toList <:+: sql

/-- Whether a character is in no comment mark. -/
def isCalm (c : Char) : Bool :=
  c != '-' && c != '/' && c != '*'

/-- Decided by going through the text; going through all characters that there are would decide it as well. -/
instance (t : Text) : Decidable (∀ c ∈ t, isCalm c = true) :=
  decidable_of_iff (t.all isCalm = true) List.all_eq_true

/-- Two characters that form no comment mark side by side. -/
def Tolerates (c d : Char) : Prop :=
  ¬(c = '-' ∧ d = '-') ∧ ¬(c = '/' ∧ d = '*') ∧ ¬(c = '*' ∧ d = '/')

theorem ne_of_isCalm {c : Char} (h : isCalm c = true) : c ≠ '-' ∧ c ≠ '/' ∧ c ≠ '*' := by
  simpa [isCalm, and_assoc] using h

theorem tolerates_of_isCalm {c d : Char} (h : isCalm c = true ∨ isCalm d = true) : Tolerates c d := by
  rcases h with h | h
  all_goals
    obtain ⟨hhyphen, hslash, hasterisk⟩ := ne_of_isCalm h
    simp [Tolerates, hhyphen, hslash, hasterisk]

/-! ### Marks between neighbours -/

private theorem pair_infix_iff {a b : Char} {t : Text} :
    [a, b] <:+: t ↔ ∃ before after, t = before ++ a :: b :: after :=
  exists₂_congr fun before after => by rw [List.append_assoc, eq_comm]; rfl

/-- The texts without comment marks are those in which no neighbours form one. -/
theorem isUncommented_iff_isChain {t : Text} : IsUncommented t ↔ t.IsChain Tolerates := by
  -- each mark is one pair of neighbours that does not occur; a text is free of all three if it is of each
  have hmark (a b : Char) : ¬[a, b] <:+: t ↔ t.IsChain fun c d => ¬(c = a ∧ d = b) := by
    rw [pair_infix_iff, List.isChain_iff_forall_rel_of_append_cons_cons]
    constructor
    · rintro h c d before after rfl ⟨rfl, rfl⟩
      exact h ⟨before, after, rfl⟩
    · rintro h ⟨before, after, rfl⟩
      exact h rfl ⟨rfl, rfl⟩
  have hdash := hmark '-' '-'
  have hopen := hmark '/' '*'
  have hclose := hmark '*' '/'
  rw [List.isChain_iff_forall_rel_of_append_cons_cons] at hdash hopen hclose ⊢
  constructor
  · rintro ⟨hd, ho, hc⟩ c d before after heq
    exact ⟨hdash.mp hd heq, hopen.mp ho heq, hclose.mp hc heq⟩
  · intro h
    exact ⟨hdash.mpr fun _ _ _ _ heq => (h heq).1, hopen.mpr fun _ _ _ _ heq => (h heq).2.1,
      hclose.mpr fun _ _ _ _ heq => (h heq).2.2⟩

theorem isUncommented_nil : IsUncommented [] :=
  isUncommented_iff_isChain.mpr .nil

theorem isUncommented_singleton (c : Char) : IsUncommented [c] :=
  isUncommented_iff_isChain.mpr (.singleton c)

/-- A text whose characters are calm has no mark. -/
theorem isUncommented_of_isCalm {t : Text} (h : ∀ c ∈ t, isCalm c = true) : IsUncommented t := by
  rw [isUncommented_iff_isChain, List.isChain_iff_forall_rel_of_append_cons_cons]
  rintro c d before after rfl
  exact tolerates_of_isCalm (.inl (h c (by simp)))

/-- No mark stands across the front of a text that begins with a calm character. -/
theorem isUncommented_append {t u : Text} (h : ∀ c ∈ u.head?, isCalm c = true) :
    IsUncommented (t ++ u) ↔ IsUncommented t ∧ IsUncommented u := by
  simp only [isUncommented_iff_isChain, List.isChain_append]
  exact ⟨fun ⟨ht, hu, _⟩ => ⟨ht, hu⟩, fun ⟨ht, hu⟩ => ⟨ht, hu, fun _ _ d hd => tolerates_of_isCalm (.inr (h d hd))⟩⟩

/-- A calm character in front is of no account. -/
theorem isUncommented_cons {c : Char} (h : isCalm c = true) {t : Text} : IsUncommented (c :: t) ↔ IsUncommented t := by
  simp only [isUncommented_iff_isChain, List.isChain_cons]
  exact and_iff_right fun d _ => tolerates_of_isCalm (.inl h)

/-- Neither are calm characters in front. -/
theorem isUncommented_calm_append {s : Text} (h : ∀ c ∈ s, isCalm c = true) {t : Text} :
    IsUncommented (s ++ t) ↔ IsUncommented t := by
  induction s with
  | nil => rfl
  | cons c s ih =>
    obtain ⟨hc, hs⟩ := List.forall_mem_cons.mp h
    rw [List.cons_append, isUncommented_cons hc, ih hs]

/-- A hyphen in front makes no mark unless another follows. -/
theorem isUncommented_hyphen {t : Text} (h : ∀ c ∈ t.head?, isCalm c = true) :
    IsUncommented ('-' :: t) ↔ IsUncommented t := by
  rw [show '-' :: t = ['-'] ++ t from rfl, isUncommented_append h]
  exact and_iff_right (isUncommented_singleton '-')

/-! ### Doubled quotes and brackets -/

private theorem head?_doubled (mark : Char) (t : Text) : (t.doubled mark).head? = t.head? := by
  cases t with
  | nil => rfl
  | cons c t =>
    by_cases hc : c = mark
    · rw [hc, Text.doubled_cons_self]
      rfl
    · rw [Text.doubled_cons_of_ne hc]
      rfl

/-- Writing a calm character twice makes no mark and tears none apart. -/
theorem isUncommented_doubled {mark : Char} (h : isCalm mark = true) (t : Text) :
    IsUncommented (t.doubled mark) ↔ IsUncommented t := by
  induction t with
  | nil => rfl
  | cons c t ih =>
    by_cases hc : c = mark
    · rw [hc, Text.doubled_cons_self, isUncommented_cons h, isUncommented_cons h, isUncommented_cons h, ih]
    · -- doubling keeps the first character of what stands behind `c`, so `c` has the same neighbour
      simp only [isUncommented_iff_isChain] at ih ⊢
      rw [Text.doubled_cons_of_ne hc, List.isChain_cons, List.isChain_cons, head?_doubled, ih]

/-! ### Texts that were put together -/

/-- A text with a calm character at its front, if it has one, that has no mark if and only if the condition holds.
Such texts can be put side by side. -/
structure ClearIff (t : Text) (p : Prop) : Prop where
  isCalm_head : ∀ c ∈ t.head?, isCalm c = true
  iff : IsUncommented t ↔ p

variable {t u s : Text} {p q : Prop}

theorem ClearIff.congr (h : ClearIff t p) (hpq : p ↔ q) : ClearIff t q :=
  ⟨h.isCalm_head, h.iff.trans hpq⟩

theorem clearIff_of_isCalm (hs : ∀ c ∈ s, isCalm c = true) : ClearIff s True :=
  ⟨fun c hc => hs c (List.mem_of_mem_head? hc), iff_true_intro (isUncommented_of_isCalm hs)⟩

/-- Behind calm characters stands any text. -/
theorem clearIff_calm_append (hne : s ≠ []) (hs : ∀ c ∈ s, isCalm c = true) (h : IsUncommented t ↔ p) :
    ClearIff (s ++ t) p := by
  refine ⟨fun c hc => ?_, (isUncommented_calm_append hs).trans h⟩
  rw [List.head?_append_of_ne_nil s hne] at hc
  exact hs c (List.mem_of_mem_head? hc)

theorem clearIff_cons {c : Char} (hc : isCalm c = true) (h : IsUncommented t ↔ p) : ClearIff (c :: t) p :=
  clearIff_calm_append (s := [c]) (List.cons_ne_nil c []) (by simpa using hc) h

theorem ClearIff.append (ht : ClearIff t p) (hu : ClearIff u q) : ClearIff (t ++ u) (p ∧ q) := by
  refine ⟨?_, (isUncommented_append hu.isCalm_head).trans (and_congr ht.iff hu.iff)⟩
  cases t with
  | nil => exact hu.isCalm_head
  | cons c t => exact ht.isCalm_head

theorem ClearIff.append_calm (ht : ClearIff t p) (hs : ∀ c ∈ s, isCalm c = true) : ClearIff (t ++ s) p :=
  (ht.append (clearIff_of_isCalm hs)).congr (and_iff_left trivial)

theorem isUncommented_append_calm (hs : ∀ c ∈ s, isCalm c = true) : IsUncommented (t ++ s) ↔ IsUncommented t :=
  (isUncommented_append (clearIff_of_isCalm hs).isCalm_head).trans (and_iff_left (isUncommented_of_isCalm hs))

theorem clearIff_parenthesized (h : IsUncommented t ↔ p) : ClearIff ('(' :: t ++ [')']) p :=
  (clearIff_cons (by decide) h).append_calm (by decide)

theorem clearIff_quote (t : Text) : ClearIff t.quote (IsUncommented t) := by
  have hdoubled : IsUncommented t.doubleQuotes ↔ IsUncommented t := isUncommented_doubled (by decide) t
  exact (clearIff_cons (by decide) hdoubled).append_calm (by decide)

theorem clearIff_bracket (name : Text) : ClearIff (Text.bracket name) (IsUncommented name) := by
  have hdoubled : IsUncommented name.doubleBrackets ↔ IsUncommented name := isUncommented_doubled (by decide) name
  exact (clearIff_cons (by decide) hdoubled).append_calm (by decide)

/-- Texts with calm separators between them meet nowhere. -/
theorem isUncommented_joinWith (hne : s ≠ []) (hs : ∀ c ∈ s, isCalm c = true) (ts : List Text) :
    IsUncommented (Text.joinWith s ts) ↔ ∀ t ∈ ts, IsUncommented t := by
  fun_induction Text.joinWith s ts with
  | case1 => simp [isUncommented_nil]
  | case2 t => simp
  | case3 t u rest ih =>
    have hrest := clearIff_calm_append hne hs ih
    rw [List.append_assoc, isUncommented_append hrest.isCalm_head, hrest.iff]
    exact List.forall_mem_cons.symm

/-! ### The guard -/

/-- The guard suspects the texts with a comment mark and no others. -/
theorem Guard.isSuspect_iff {sql : Text} : isSuspect sql = true ↔ ¬IsUncommented sql := by
  have hsemicolon (t : Text) (h : ";--".toList <:+: t) : "--".toList <:+: t :=
    List.IsInfix.trans ⟨";".toList, [], rfl⟩ h
  have hquote : isCalm '\'' = true := by decide
  rw [← isUncommented_doubled hquote sql, ← Text.doubleQuotes_eq]
  simp only [isSuspect, commentMarks, List.any_cons, List.any_nil, Bool.or_false, Bool.or_eq_true, Text.occursIn_iff,
    IsUncommented, not_and_or, not_not]
  constructor
  · rintro (h | h | h | h)
    · exact .inl h
    · exact .inl (hsemicolon _ h)
    · exact .inr (.inl h)
    · exact .inr (.inr h)
  · rintro (h | h | h)
    · exact .inl h
    · exact .inr (.inr (.inl h))
    · exact .inr (.inr (.inr h))

/-- A text that passes the guard has no comment mark. -/
theorem isUncommented_of_not_isSuspect {sql : Text} (h : Guard.isSuspect sql = false) : IsUncommented sql := by
  by_contra hmark
  rw [Guard.isSuspect_iff.mpr hmark] at h
  exact absurd h (by decide)

instance (sql : Text) : Decidable (IsUncommented sql) :=
  decidable_of_iff (Guard.isSuspect sql = false) (by rw [← Bool.not_eq_true, Guard.isSuspect_iff, not_not])

end EntityStore
