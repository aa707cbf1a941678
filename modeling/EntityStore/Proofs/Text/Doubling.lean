import EntityStore.Text.Bracketed
import EntityStore.Text.Quoted

/-!
# Doubled marks

String literals and bracketed names are one device with two marks: inside the text the mark that ends it is written
twice.  A reader goes up to the first mark that is not followed by another (`readUpTo?`).  It finds any text again in
front of everything that does not start with the mark (`readUpTo?_doubled`), and what it took was the doubled text
and its mark (`eq_doubled_of_readUpTo?`).
-/

namespace EntityStore.Text

/-- The text with every occurrence of the mark written twice. -/
def doubled (mark : Char) (t : Text) : Text :=
  t.flatMap fun c => if c = mark then [mark, mark] else [c]

/-- Reads a text in which the mark is written twice up to the mark that ends it; the second part is what follows. -/
def readUpTo? (mark : Char) : Text → Option (Text × Text)
  | [] => none
  | [c] => if c = mark then some ([], []) else none
  | c :: d :: rest =>
    if c = mark then
      if d = mark then (readUpTo? mark rest).map fun (t, after) => (mark :: t, after) else some ([], d :: rest)
    else (readUpTo? mark (d :: rest)).map fun (t, after) => (c :: t, after)

theorem doubleQuotes_eq (t : Text) : t.doubleQuotes = t.doubled '\'' := rfl

theorem doubleBrackets_eq (t : Text) : t.doubleBrackets = t.doubled ']' := rfl

theorem doubled_cons_self (mark : Char) (t : Text) : doubled mark (mark :: t) = mark :: mark :: t.doubled mark := by
  simp [doubled]

theorem doubled_cons_of_ne {mark c : Char} (h : c ≠ mark) (t : Text) :
    doubled mark (c :: t) = c :: t.doubled mark := by
  simp [doubled, h]

theorem doubled_append (mark : Char) (t u : Text) : (t ++ u).doubled mark = t.doubled mark ++ u.doubled mark :=
  List.flatMap_append

/-- A text without the mark stays as it is. -/
theorem doubled_of_notMem {mark : Char} {t : Text} (h : mark ∉ t) : t.doubled mark = t := by
  induction t with
  | nil => rfl
  | cons c t ih =>
    rw [List.mem_cons, not_or] at h
    rw [doubled_cons_of_ne (Ne.symm h.1), ih h.2]

private theorem prefix_of_prefix_doubled {mark : Char} {needle : Text} (h : mark ∉ needle) {t : Text}
    (hstarts : needle <+: t.doubled mark) : needle <+: t := by
  induction t generalizing needle with
  | nil => exact hstarts
  | cons c t ih =>
    cases needle with
    | nil => exact List.nil_prefix
    | cons d needle =>
      rw [List.mem_cons, not_or] at h
      by_cases hc : c = mark
      · rw [hc, doubled_cons_self, List.cons_prefix_cons] at hstarts
        exact absurd hstarts.1.symm h.1
      · rw [doubled_cons_of_ne hc, List.cons_prefix_cons] at hstarts
        exact List.cons_prefix_cons.mpr ⟨hstarts.1, ih h.2 hstarts.2⟩

/-- Writing the mark twice does not bring other characters together. -/
theorem infix_of_infix_doubled {mark : Char} {needle : Text} (h : mark ∉ needle) (hne : needle ≠ []) {t : Text}
    (hoccurs : needle <:+: t.doubled mark) : needle <:+: t := by
  have hfront {u : Text} : ¬needle <+: mark :: u := by
    obtain ⟨d, needle, rfl⟩ := List.exists_cons_of_ne_nil hne
    rw [List.cons_prefix_cons]
    rintro ⟨rfl, -⟩
    exact h (List.mem_cons_self ..)
  induction t with
  | nil => exact hoccurs
  | cons c t ih =>
    by_cases hc : c = mark
    · rw [hc, doubled_cons_self, List.infix_cons_iff, or_iff_right hfront, List.infix_cons_iff,
        or_iff_right hfront] at hoccurs
      exact List.infix_cons (ih hoccurs)
    · rw [doubled_cons_of_ne hc, List.infix_cons_iff, ← doubled_cons_of_ne hc] at hoccurs
      rcases hoccurs with hstarts | hoccurs
      · exact (prefix_of_prefix_doubled h hstarts).isInfix
      · exact List.infix_cons (ih hoccurs)

/-- Writing a mark twice leaves the texts without it where they were: it neither brings them about nor tears them. -/
theorem infix_doubled_iff {mark : Char} {needle : Text} (h : mark ∉ needle) (hne : needle ≠ []) {t : Text} :
    needle <:+: t.doubled mark ↔ needle <:+: t := by
  refine ⟨infix_of_infix_doubled h hne, ?_⟩
  rintro ⟨before, after, rfl⟩
  refine ⟨doubled mark before, doubled mark after, ?_⟩
  rw [doubled_append, doubled_append, doubled_of_notMem h]

private theorem readUpTo?_cons_of_ne {mark c : Char} (h : c ≠ mark) (t : Text) :
    readUpTo? mark (c :: t) = (readUpTo? mark t).map fun (u, after) => (c :: u, after) := by
  cases t with
  | nil => simp [readUpTo?, h]
  | cons d t => simp [readUpTo?, h]

private theorem readUpTo?_mark_mark (mark : Char) (t : Text) :
    readUpTo? mark (mark :: mark :: t) = (readUpTo? mark t).map fun (u, after) => (mark :: u, after) := by
  simp [readUpTo?]

private theorem readUpTo?_mark {mark : Char} {after : Text} (h : after.head? ≠ some mark) :
    readUpTo? mark (mark :: after) = some ([], after) := by
  cases after with
  | nil => simp [readUpTo?]
  | cons d after =>
    have hd : d ≠ mark := by simpa using h
    simp [readUpTo?, hd]

/-- Reading finds a text again, whatever follows its mark, if only the mark itself does not. -/
theorem readUpTo?_doubled {mark : Char} {after : Text} (h : after.head? ≠ some mark) (t : Text) :
    readUpTo? mark (t.doubled mark ++ mark :: after) = some (t, after) := by
  induction t with
  | nil => exact readUpTo?_mark h
  | cons c t ih =>
    -- a mark of the text is never alone, so that only the one after the text ends it
    by_cases hc : c = mark
    · subst hc
      rw [doubled_cons_self, List.cons_append, List.cons_append, readUpTo?_mark_mark, ih]
      rfl
    · rw [doubled_cons_of_ne hc, List.cons_append, readUpTo?_cons_of_ne hc, ih]
      rfl

/-- What was read stood there with its marks doubled, and another mark does not follow. -/
theorem eq_doubled_of_readUpTo? {mark : Char} {t u after : Text} (h : readUpTo? mark t = some (u, after)) :
    t = u.doubled mark ++ mark :: after ∧ after.head? ≠ some mark := by
  fun_induction readUpTo? mark t generalizing u with
  | case1 => simp at h
  | case2 => simp at h; obtain ⟨rfl, rfl⟩ := h; simp [doubled]
  | case3 c hc => simp at h
  | case4 rest ih =>
    obtain ⟨⟨v, rest'⟩, hread, heq⟩ := Option.map_eq_some_iff.mp h
    obtain ⟨rfl, rfl⟩ := Prod.mk.inj heq
    obtain ⟨hrest, hhead⟩ := ih hread
    exact ⟨by rw [doubled_cons_self, hrest]; rfl, hhead⟩
  | case5 d rest hd =>
    simp at h
    obtain ⟨rfl, rfl⟩ := h
    exact ⟨rfl, by simpa using hd⟩
  | case6 c d rest hc ih =>
    obtain ⟨⟨v, rest'⟩, hread, heq⟩ := Option.map_eq_some_iff.mp h
    obtain ⟨rfl, rfl⟩ := Prod.mk.inj heq
    obtain ⟨hrest, hhead⟩ := ih hread
    exact ⟨by rw [doubled_cons_of_ne hc, hrest]; rfl, hhead⟩

theorem length_lt_of_readUpTo? {mark : Char} {t u after : Text} (h : readUpTo? mark t = some (u, after)) :
    after.length < t.length := by
  rw [(eq_doubled_of_readUpTo? h).1, List.length_append, List.length_cons]
  omega

/-- Taking pairs of quotes for one quote undoes the doubling. -/
theorem undoubleQuotes_doubled (t : Text) : undoubleQuotes (t.doubled '\'') = t := by
  induction t with
  | nil => rfl
  | cons c t ih =>
    by_cases hc : c = '\''
    · subst hc
      rw [doubled_cons_self, undoubleQuotes, ih]
    · rw [doubled_cons_of_ne hc, undoubleQuotes, ih]
      simp [hc]

/-- Undoing the doubling is a replacement of two quotes by one. -/
theorem replaceAll_quotes (t : Text) : replaceAll "''".toList "'".toList t = t.undoubleQuotes := by
  unfold replaceAll
  fun_induction undoubleQuotes t with
  | case1 rest ih => simpa [replaceFrom, dropMark?] using ih
  | case2 c rest hpair ih =>
    -- either no quote stands here or the one that does stands alone
    have hmark : (dropMark? "''".toList (c :: rest)).isSome = false := by
      rw [Option.isSome_eq_false_iff, Option.isNone_iff_eq_none, Option.eq_none_iff_forall_ne_some]
      intro after hafter
      rw [dropMark?_eq_some_iff] at hafter
      obtain ⟨rfl, rfl⟩ := List.cons.inj hafter
      exact hpair after rfl rfl
    rw [replaceFrom, if_neg (by rw [hmark]; decide), ih]
  | case3 => rfl

end EntityStore.Text
