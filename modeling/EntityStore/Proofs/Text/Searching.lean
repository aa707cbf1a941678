import EntityStore.Proofs.Text.Doubling
import EntityStore.Text.Bracketed

/-!
# Searching texts for marks

A mark that lacks a character does not reach across it (`infix_append_cons_iff`).  A text that is put together from
names and words between such characters therefore has the mark only if one of its parts has it.  This settles what a
search for the first occurrence finds (`splitFirst?_append`): nothing before the end of a part that does not have the
mark.  A mark of one character is found at its first occurrence (`splitFirst?_singleton_eq_some_iff`).  Replacing all
occurrences goes through the text in the same way (`replaceAll_mark`, `replaceAll_cons`).
-/

namespace EntityStore.Text

variable {mark s t : Text}

/-- A text that is known is searched. -/
theorem not_infix_of_occursIn (h : occursIn mark t = false) : ¬mark <:+: t := by
  rw [← occursIn_iff, h]
  exact Bool.false_ne_true

private theorem prefix_append_cons {c : Char} (hc : c ∉ mark) (h : mark <+: s ++ c :: t) : mark <+: s := by
  have hend : s ++ [c] <+: s ++ c :: t := ⟨t, by simp⟩
  rcases List.prefix_or_prefix_of_prefix h hend with h | h
  · rcases List.prefix_concat_iff.mp h with heq | h
    · exact absurd (heq ▸ List.mem_append_right s (List.mem_singleton_self c)) hc
    · exact h
  · exact absurd (h.subset (List.mem_append_right s (List.mem_singleton_self c))) hc

/-- A mark that lacks a character stands on one side of it. -/
theorem infix_append_cons_iff {c : Char} (hc : c ∉ mark) : mark <:+: s ++ c :: t ↔ mark <:+: s ∨ mark <:+: t := by
  constructor
  · intro h
    induction s with
    | nil =>
      rcases List.infix_cons_iff.mp h with h | h
      · exact .inl (prefix_append_cons (s := []) hc h).isInfix
      · exact .inr h
    | cons d s ih =>
      rcases List.infix_cons_iff.mp h with h | h
      · exact .inl (prefix_append_cons (s := d :: s) hc h).isInfix
      · exact (ih h).imp_left List.infix_cons
  · rintro (h | h)
    · exact h.trans (List.prefix_append s _).isInfix
    · exact (List.infix_cons h).trans (List.suffix_append s _).isInfix

theorem infix_cons_iff_of_notMem {c : Char} (hc : c ∉ mark) (hne : mark ≠ []) : mark <:+: c :: t ↔ mark <:+: t := by
  have h := infix_append_cons_iff (s := []) (t := t) hc
  rwa [List.nil_append, List.infix_nil, or_iff_right hne] at h

/-! ### The first occurrence -/

private theorem dropMark?_eq_none_iff : dropMark? mark t = none ↔ ¬mark <+: t := by
  rw [← isSome_dropMark?_iff, Bool.not_eq_true, Option.isSome_eq_false_iff, Option.isNone_iff_eq_none]

theorem splitFirst?_eq_none_iff : splitFirst? mark t = none ↔ ¬mark <:+: t := by
  induction t with
  | nil => rw [splitFirst?, Option.map_eq_none_iff, dropMark?_eq_none_iff, List.infix_nil, List.prefix_nil]
  | cons c t ih =>
    rw [splitFirst?, List.infix_cons_iff, not_or, ← ih, ← dropMark?_eq_none_iff]
    cases dropMark? mark (c :: t) with
    | none => simp
    | some after => simp

/-- What stands before a mark is found if the mark does not begin in it. -/
theorem splitFirst?_append (h : ¬mark <:+: s ++ mark.dropLast) (t : Text) :
    splitFirst? mark (s ++ mark ++ t) = some (s, t) := by
  induction s with
  | nil =>
    obtain ⟨c, m, rfl⟩ : ∃ c m, mark = c :: m :=
      List.exists_cons_of_ne_nil fun hnil => h (hnil ▸ List.nil_infix)
    have hmark : dropMark? (c :: m) (c :: m ++ t) = some t := dropMark?_eq_some_iff.mpr rfl
    rw [List.nil_append, List.cons_append, splitFirst?, ← List.cons_append, hmark]
  | cons c s ih =>
    -- a mark that began here would end before the last character of the one that follows
    have hfront : ¬mark <+: c :: s ++ mark ++ t := by
      intro hstarts
      have hbefore : c :: s ++ mark.dropLast <+: c :: s ++ mark ++ t := by
        rw [List.append_assoc, List.prefix_append_right_inj]
        exact (List.dropLast_prefix mark).trans (List.prefix_append mark t)
      have hlength : mark.length ≤ (c :: s ++ mark.dropLast).length := by
        rw [List.length_append, List.length_cons, List.length_dropLast]
        omega
      exact h (List.prefix_of_prefix_length_le hstarts hbefore hlength).isInfix
    have hrest := ih fun hinside => h (List.infix_cons hinside)
    rw [List.cons_append, List.cons_append] at hfront ⊢
    rw [splitFirst?, dropMark?_eq_none_iff.mpr hfront, hrest]
    rfl

/-! ### Splitting at one character -/

theorem splitFirst?_singleton_eq_none_iff {mark : Char} {t : Text} : splitFirst? [mark] t = none ↔ mark ∉ t := by
  induction t with
  | nil => simp [splitFirst?, dropMark?]
  | cons c t ih =>
    rw [splitFirst?, dropMark?]
    by_cases hc : mark = c
    · simp [hc, dropMark?]
    · simp [hc, ih]

/-- A text is split at the first occurrence of a character: none stands before it. -/
theorem splitFirst?_singleton_eq_some_iff {mark : Char} {t before after : Text} :
    splitFirst? [mark] t = some (before, after) ↔ t = before ++ mark :: after ∧ mark ∉ before := by
  induction t generalizing before after with
  | nil => simp [splitFirst?, dropMark?]
  | cons c t ih =>
    rw [splitFirst?, dropMark?]
    by_cases hc : mark = c
    · subst hc
      cases before with
      | nil => simp [dropMark?]
      | cons d before =>
        refine iff_of_false (by simp [dropMark?]) ?_
        rintro ⟨heq, hmem⟩
        exact hmem ((List.cons.inj heq).1 ▸ List.mem_cons_self ..)
    · cases before with
      | nil => simp [hc, Ne.symm hc]
      | cons d before =>
        have hmem (h : c = d) : mark ∉ d :: before ↔ mark ∉ before := by simp [← h, hc]
        simp only [if_neg hc, Option.map_eq_some_iff, Prod.exists, ih, Prod.mk.injEq, List.cons.injEq,
          List.cons_append]
        constructor
        · rintro ⟨b, a, ⟨rfl, hb⟩, ⟨rfl, rfl⟩, rfl⟩
          exact ⟨⟨rfl, rfl⟩, (hmem rfl).mpr hb⟩
        · rintro ⟨⟨rfl, rfl⟩, hb⟩
          exact ⟨before, after, ⟨rfl, (hmem rfl).mp hb⟩, ⟨rfl, rfl⟩, rfl⟩

/-- No part of a text that was split at a character has it. -/
theorem notMem_of_mem_splitOn {c : Char} {part : Text} (h : part ∈ t.splitOn c) : c ∉ part := by
  induction t generalizing part with
  | nil =>
    obtain rfl := List.mem_singleton.mp h
    exact List.not_mem_nil
  | cons d t ih =>
    obtain ⟨first, rest, hparts⟩ := List.exists_cons_of_ne_nil (List.splitOn_ne_nil c t)
    rw [List.splitOn_cons_eq_if_modifyHead, hparts] at h
    rw [hparts] at ih
    split at h
    · rcases List.mem_cons.mp h with rfl | h
      · exact List.not_mem_nil
      · exact ih h
    · next hd =>
      rcases List.mem_cons.mp h with rfl | h
      · exact List.not_mem_cons_of_ne_of_not_mem (fun heq => hd (by simp [heq])) (ih List.mem_cons_self)
      · exact ih (List.mem_cons_of_mem first h)

/-! ### Replacing -/

variable {replacement : Text}

private theorem replaceFrom_length (s t : Text) :
    replaceFrom mark replacement s.length (s ++ t) = replaceFrom mark replacement 0 t := by
  induction s with
  | nil => rfl
  | cons c s ih => rw [List.cons_append, List.length_cons, replaceFrom, ih]

/-- A mark at the front is replaced. -/
theorem replaceAll_mark (hne : mark ≠ []) (t : Text) :
    replaceAll mark replacement (mark ++ t) = replacement ++ replaceAll mark replacement t := by
  obtain ⟨c, m, rfl⟩ := List.exists_cons_of_ne_nil hne
  have hstarts : (dropMark? (c :: m) (c :: (m ++ t))).isSome = true := isSome_dropMark?_iff.mpr ⟨t, rfl⟩
  rw [replaceAll, List.cons_append, replaceFrom, if_pos hstarts]
  exact congrArg (replacement ++ ·) (replaceFrom_length m t)

/-- Where no mark begins, a character stays. -/
theorem replaceAll_cons {c : Char} (h : ¬mark <+: c :: t) :
    replaceAll mark replacement (c :: t) = c :: replaceAll mark replacement t := by
  rw [replaceAll, replaceFrom, if_neg (mt isSome_dropMark?_iff.mp h)]
  rfl

end EntityStore.Text
