import EntityStore.Proofs.Sql.Comment

/-!
# Nothing around a clause hides it from the guard

The guard searches a statement in which every quote was written twice.  Each of its marks stands there exactly if it
stands in the statement itself (`Guard.occursIn_doubleQuotes`).  A mark of a clause is therefore found in every text
that the clause was put into, by writing something before or behind it or by writing quotes or brackets twice, as often
as one likes (`Wraps.isSuspect`).
-/

namespace EntityStore

/-- The texts into which a clause was put.  Something may have been written before and behind it, and a character that
is in no comment mark may have been written twice throughout. -/
inductive Wraps (clause : Text) : Text → Prop where
  | itself : Wraps clause clause
  | beside {t : Text} (before after : Text) (h : Wraps clause t) : Wraps clause (before ++ t ++ after)
  | doubled {t : Text} {mark : Char} (hmark : isCalm mark = true) (h : Wraps clause t) : Wraps clause (t.doubled mark)

variable {clause t : Text}

/-- A clause is put into a literal by writing its quotes twice, and quotes around it. -/
theorem Wraps.quote (h : Wraps clause t) : Wraps clause t.quote := by
  have hquote : isCalm '\'' = true := by decide
  exact (h.doubled hquote).beside ['\''] ['\'']

/-- A clause is put into a name by writing its closing brackets twice, and brackets around it. -/
theorem Wraps.bracket (h : Wraps clause t) : Wraps clause (Text.bracket t) := by
  have hbracket : isCalm ']' = true := by decide
  exact (h.doubled hbracket).beside ['['] [']']

namespace Guard

/-- Each mark stands in a text with doubled quotes exactly if it stands in the text itself. -/
theorem occursIn_doubleQuotes {mark : Text} (h : mark ∈ commentMarks) :
    mark.occursIn t.doubleQuotes = mark.occursIn t := by
  have hquote : ∀ mark ∈ commentMarks, '\'' ∉ mark ∧ mark ≠ [] := by decide
  obtain ⟨hmem, hne⟩ := hquote mark h
  rw [Bool.eq_iff_iff, Text.occursIn_iff, Text.occursIn_iff, Text.doubleQuotes_eq, Text.infix_doubled_iff hmem hne]

/-- A text is suspect exactly if one of three marks stands in it as it is. -/
theorem isSuspect_iff_marks :
    isSuspect t = true ↔ "--".toList <:+: t ∨ "/*".toList <:+: t ∨ "*/".toList <:+: t := by
  simp only [isSuspect_iff, IsUncommented, not_and_or, not_not]

/-- What stands in a text stands in every text around it. -/
theorem isSuspect_append (h : isSuspect t = true) (before after : Text) :
    isSuspect (before ++ t ++ after) = true := by
  have hinfix {mark : Text} (hmark : mark <:+: t) : mark <:+: before ++ t ++ after :=
    hmark.trans (List.infix_append before t after)
  rw [isSuspect_iff_marks] at h ⊢
  exact h.imp hinfix (Or.imp hinfix hinfix)

theorem isSuspect_doubled {mark : Char} (h : isCalm mark = true) : isSuspect (t.doubled mark) = isSuspect t := by
  rw [Bool.eq_iff_iff, isSuspect_iff, isSuspect_iff, isUncommented_doubled h]

/-- A suspect text is refused with the text itself. -/
theorem check_of_isSuspect (h : isSuspect t = true) : check t = .error (.injectionSuspected t) :=
  if_pos h

end Guard

/-- By induction on how a suspect clause was put into a text: no step hides the mark. -/
theorem Wraps.isSuspect (hclause : Guard.isSuspect clause = true) (h : Wraps clause t) :
    Guard.isSuspect t = true := by
  induction h with
  | itself => exact hclause
  | beside before after _ ih => exact Guard.isSuspect_append ih before after
  | doubled hmark _ ih => exact (Guard.isSuspect_doubled hmark).trans ih

/-- Doubling the quotes is of no account to the guard: it finds each of its marks exactly where it stands in the text
itself, and it suspects the texts with one of three marks.  What it suspects it suspects with any text before and
behind it, and it refuses every text that a suspect clause was put into. -/
theorem Guard.marks_unhidden (clause : Text) :
    (∀ mark ∈ commentMarks, mark.occursIn clause.doubleQuotes = mark.occursIn clause) ∧
    (Guard.isSuspect clause = true ↔
      "--".toList <:+: clause ∨ "/*".toList <:+: clause ∨ "*/".toList <:+: clause) ∧
    (Guard.isSuspect clause = true → ∀ before after, Guard.isSuspect (before ++ clause ++ after) = true) ∧
    (Guard.isSuspect clause = true → ∀ t, Wraps clause t → check t = .error (.injectionSuspected t)) :=
  ⟨fun _ => occursIn_doubleQuotes, isSuspect_iff_marks, isSuspect_append,
    fun hclause _ hwraps => check_of_isSuspect (hwraps.isSuspect hclause)⟩

/-- A comment between quotes is found, and so it is in a literal inside a bracketed name. -/
theorem Guard.marks_unhidden_quotes :
    let clause : Text := "'--'".toList
    let name := Text.bracket ("a]".toList ++ clause.quote ++ "b".toList)
    Guard.isSuspect clause = true ∧ check name = .error (.injectionSuspected name) := by
  intro clause name
  obtain ⟨-, hsuspect, -, hwrapped⟩ := Guard.marks_unhidden clause
  have hclause := hsuspect.mpr (.inl ⟨['\''], ['\''], rfl⟩)
  exact ⟨hclause, hwrapped hclause name (Wraps.itself.quote.beside "a]".toList "b".toList).bracket⟩

end EntityStore
