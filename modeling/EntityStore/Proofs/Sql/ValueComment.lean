import EntityStore.Proofs.Sql.Comment
import EntityStore.Proofs.Sql.Literal
import EntityStore.Proofs.Text.Guids

/-!
# Values without comment marks

Numbers, guids, dates, times and offsets are written with hyphens, but every hyphen is followed by a digit, so that
their literals have no comment mark.  What is left are strings, characters and documents, whose texts are free
(`Value.freeText?`): a literal has a mark if and only if such a text has one (`Value.isUncommented_literal`), and a
batch of literals if one of them has (`Value.isUncommented_batches`).
-/

namespace EntityStore

theorem isCalm_of_isDigit {c : Char} (h : c.isDigit = true) : isCalm c = true := by
  have hne {d : Char} (hd : d.isDigit = false) : c ≠ d := by
    rintro rfl
    rw [h] at hd
    exact absurd hd (by decide)
  have hhyphen : c ≠ '-' := hne (by decide)
  have hslash : c ≠ '/' := hne (by decide)
  have hasterisk : c ≠ '*' := hne (by decide)
  simp [isCalm, hhyphen, hslash, hasterisk]

/-! ### Numbers -/

theorem isCalm_of_isUnsignedNumeral {t : Text} (h : isUnsignedNumeral t = true) :
    ∀ c ∈ t, isCalm c = true := by
  intro c hc
  rcases isDigit_or_point_of_isUnsignedNumeral h hc with hdigit | rfl
  · exact isCalm_of_isDigit hdigit
  · decide

theorem Numeral.isUncommented (n : Numeral) : IsUncommented n.text := by
  have h := n.isNumeral_text
  unfold isNumeral at h
  split at h
  · next t heq =>
    have hcalm := isCalm_of_isUnsignedNumeral h
    rw [heq, isUncommented_hyphen fun c hc => hcalm c (List.mem_of_mem_head? hc)]
    exact isUncommented_of_isCalm hcalm
  · exact isUncommented_of_isCalm (isCalm_of_isUnsignedNumeral h)

section Parts

variable {rest : Text}

/-- Nothing meets behind calm characters. -/
private theorem IsUncommented.calm_append {s : Text} (hs : ∀ c ∈ s, isCalm c = true) (h : IsUncommented rest) :
    IsUncommented (s ++ rest) :=
  (isUncommented_calm_append hs).mpr h

private theorem IsUncommented.cons {c : Char} (hc : isCalm c = true) (h : IsUncommented rest) :
    IsUncommented (c :: rest) :=
  (isUncommented_cons hc).mpr h

/-- A hyphen is safe in front of calm characters if there are any. -/
private theorem IsUncommented.hyphen_append {s : Text} (hne : s ≠ []) (hs : ∀ c ∈ s, isCalm c = true)
    (h : IsUncommented rest) : IsUncommented ('-' :: (s ++ rest)) := by
  obtain ⟨c, s, rfl⟩ := List.exists_cons_of_ne_nil hne
  have hhead : ∀ d ∈ (c :: s ++ rest).head?, isCalm d = true := fun d hd =>
    Option.some.inj hd ▸ hs c (List.mem_cons_self ..)
  exact (isUncommented_hyphen hhead).mpr (h.calm_append hs)

private theorem isCalm_ofNat (n : Nat) : ∀ c ∈ Text.ofNat n, isCalm c = true :=
  fun _ hc => isCalm_of_isDigit (Text.isDigit_of_mem_ofNat hc)

private theorem isCalm_ofNatPadded (width n : Nat) : ∀ c ∈ Text.ofNatPadded width n, isCalm c = true :=
  fun _ hc => isCalm_of_isDigit (Text.isDigit_of_mem_ofNatPadded hc)

private theorem IsUncommented.padded (width n : Nat) (h : IsUncommented rest) :
    IsUncommented (Text.ofNatPadded width n ++ rest) :=
  h.calm_append (isCalm_ofNatPadded width n)

private theorem IsUncommented.hyphen_padded {width : Nat} (hwidth : 0 < width) (n : Nat) (h : IsUncommented rest) :
    IsUncommented ('-' :: (Text.ofNatPadded width n ++ rest)) :=
  h.hyphen_append (Text.ofNatPadded_ne_nil hwidth n) (isCalm_ofNatPadded width n)

/-! ### Dates and times -/

private theorem IsUncommented.sign {c : Char} (hc : c = '-' ∨ isCalm c = true) {width : Nat} (hwidth : 0 < width)
    (n : Nat) (h : IsUncommented rest) : IsUncommented (c :: (Text.ofNatPadded width n ++ rest)) := by
  rcases hc with rfl | hc
  · exact h.hyphen_padded hwidth n
  · exact (h.padded width n).cons hc

private theorem IsUncommented.year (y : Int) (h : IsUncommented rest) : IsUncommented (yearText y ++ rest) := by
  unfold yearText
  split
  · exact h.padded 4 _
  · exact h.sign (by split <;> decide) (by decide) _

private theorem IsUncommented.fraction (n : Nat) (h : IsUncommented rest) :
    IsUncommented (fractionText n ++ rest) := by
  have hpoint (width n : Nat) : IsUncommented ('.' :: (Text.ofNatPadded width n ++ rest)) :=
    (h.padded width n).cons (by decide)
  unfold fractionText
  split
  · exact h
  · split
    · exact hpoint _ _
    · split <;> exact hpoint _ _

private theorem IsUncommented.dateTime (t : DateTime) (h : IsUncommented rest) :
    IsUncommented (t.toText ++ rest) := by
  have htime : IsUncommented (t.time.toText ++ rest) := by
    simp only [TimeOfDay.toText, List.append_assoc, List.cons_append]
    exact .padded 2 _ (.cons (by decide) (.padded 2 _ (.cons (by decide) (.padded 2 _ (h.fraction _)))))
  simp only [DateTime.toText, Date.toText, List.append_assoc, List.cons_append]
  exact .year _ (.hyphen_padded (by decide) _ (.hyphen_padded (by decide) _ (.cons (by decide) htime)))

private theorem isUncommented_dateTime (t : DateTime) : IsUncommented t.toText := by
  have h := isUncommented_nil.dateTime t
  rwa [List.append_nil] at h

private theorem isUncommented_offsetText (o : Int) : IsUncommented (offsetText o) := by
  have hminutes : IsUncommented (':' :: Text.ofNatPadded 2 ((o.natAbs + 30) / 60 % 60)) :=
    .cons (by decide) (isUncommented_of_isCalm (isCalm_ofNatPadded _ _))
  exact hminutes.sign (by split <;> decide) (by decide) _

/-- Whichever comes first, the days or the hours, it is a digit that follows a sign. -/
private theorem IsUncommented.days (p : Prop) [Decidable p] (days hours : Nat) (h : IsUncommented rest) :
    IsUncommented ((if p then ['-'] else []) ++ ((if 0 < days then Text.ofNat days ++ ['.'] else []) ++
      (Text.ofNatPadded 2 hours ++ rest))) := by
  by_cases hdays : 0 < days
  · simp only [if_pos hdays, List.append_assoc, List.singleton_append]
    have hpoint : IsUncommented ('.' :: (Text.ofNatPadded 2 hours ++ rest)) := .cons (by decide) (.padded 2 _ h)
    split
    · rw [List.singleton_append]
      exact hpoint.hyphen_append (Text.ofNat_ne_nil _) (isCalm_ofNat _)
    · rw [List.nil_append]
      exact hpoint.calm_append (isCalm_ofNat _)
  · simp only [if_neg hdays, List.nil_append]
    split
    · exact h.hyphen_padded (by decide) _
    · exact h.padded 2 _

private theorem isUncommented_timeSpan (s : TimeSpan) : IsUncommented s.toText := by
  have hticks (ticks : Nat) : IsUncommented (if 0 < ticks then '.' :: Text.ofNatPadded 7 ticks else []) := by
    split
    · exact .cons (by decide) (isUncommented_of_isCalm (isCalm_ofNatPadded _ _))
    · exact isUncommented_nil
  simp only [TimeSpan.toText, List.append_assoc, List.cons_append]
  exact .days _ _ _ (.cons (by decide) (.padded 2 _ (.cons (by decide) (.padded 2 _ (hticks _)))))

/-! ### Guids -/

private theorem isCalm_hexDigit (d : Fin 16) : isCalm (Text.hexDigit d) = true := by
  revert d
  decide

private theorem isUncommented_guid (g : Guid) : IsUncommented g.toText := by
  have hcalm : ∀ c ∈ g.plainText, isCalm c = true := by
    intro c hc
    obtain ⟨d, -, rfl⟩ := List.mem_map.mp hc
    exact isCalm_hexDigit d
  have hdrop (k : Nat) : ∀ c ∈ g.plainText.drop k, isCalm c = true := fun c hc => hcalm c (List.mem_of_mem_drop hc)
  have hgroup (k n : Nat) : ∀ c ∈ (g.plainText.drop k).take n, isCalm c = true :=
    fun c hc => hdrop k c (List.mem_of_mem_take hc)
  have hne (k : Nat) (hk : k < 32) : (g.plainText.drop k).take 4 ≠ [] :=
    List.ne_nil_of_length_pos (by rw [List.length_take, List.length_drop, g.length_plainText]; omega)
  have hlast : IsUncommented ('-' :: g.plainText.drop 20) :=
    (isUncommented_hyphen fun c hc => hdrop 20 c (List.mem_of_mem_head? hc)).mpr (isUncommented_of_isCalm (hdrop 20))
  simp only [Guid.toText, List.append_assoc, List.cons_append]
  exact .calm_append (hgroup 0 8) (.hyphen_append (hne 8 (by decide)) (hgroup 8 4)
    (.hyphen_append (hne 12 (by decide)) (hgroup 12 4) (.hyphen_append (hne 16 (by decide)) (hgroup 16 4) hlast)))

end Parts

/-! ### Literals -/

/-- The text of a value that consists of nothing but a text. -/
def Value.freeText? : Value → Option Text
  | .string t | .xml t => some t
  | .char c => some [c]
  | _ => none

theorem Value.toText?_of_freeText? {v : Value} {t : Text} (h : v.freeText? = some t) : v.toText? = some t := by
  cases v with
  | string u => exact h
  | xml u => exact h
  | char c => exact h
  | _ => cases h

/-- Of the values that have a literal, only those with a free text can say a mark. -/
private theorem Value.isUncommented_content {v : Value} {l : Literal} (h : v.token? = some l) :
    IsUncommented l.content ↔ ∀ u ∈ v.freeText?, IsUncommented u := by
  have htext : v.toText? = some l.content := Value.toText?_of_token? h
  have hsafe (hfree : v.freeText? = none) (huncommented : IsUncommented l.content) :
      IsUncommented l.content ↔ ∀ u ∈ v.freeText?, IsUncommented u :=
    iff_of_true huncommented (by simp [hfree])
  have hsaid {t : Text} (ht : v.toText? = some t) (huncommented : IsUncommented t) : IsUncommented l.content :=
    Option.some.inj (ht.symm.trans htext) ▸ huncommented
  have hnumber {n : Numeral} (hn : v.token? = some (.number n)) : IsUncommented l.content :=
    Option.some.inj (hn.symm.trans h) ▸ n.isUncommented
  have hfree (hfree : v.freeText? = v.toText?) : IsUncommented l.content ↔ ∀ u ∈ v.freeText?, IsUncommented u := by
    rw [hfree, htext]
    simp
  cases v with
  | null => cases htext
  | bytes _ => cases htext
  | list _ => cases htext
  | string t => exact hfree rfl
  | xml t => exact hfree rfl
  | char c => exact hfree rfl
  | bool b => exact hsafe rfl (hnumber rfl)
  | int i => exact hsafe rfl (hnumber rfl)
  | uint u => exact hsafe rfl (hnumber rfl)
  | decimal d => exact hsafe rfl (hnumber rfl)
  | double d =>
    by_cases hd : d.isFinite = true
    · exact hsafe rfl (hnumber (dif_pos hd))
    · rw [token?, dif_neg hd] at h
      cases h
  | dateTime t => exact hsafe rfl (hsaid rfl (isUncommented_dateTime t))
  | offsetDateTime t => exact hsafe rfl (hsaid rfl ((isUncommented_offsetText t.offset).dateTime t.localTime))
  | guid g => exact hsafe rfl (hsaid rfl (isUncommented_guid g))
  | timeSpan s => exact hsafe rfl (hsaid rfl (isUncommented_timeSpan s))

theorem Value.isUncommented_literal {v : Value} {t : Text} (h : v.literal = .ok t) :
    IsUncommented t ↔ ∀ u ∈ v.freeText?, IsUncommented u := by
  obtain ⟨l, hl, rfl⟩ := Value.literal_eq_ok_iff.mp h
  rw [← Value.isUncommented_content hl]
  cases l with
  | string t => exact (clearIff_quote t).iff
  | number n => rfl

/-- Between quotes of another text a literal has the marks that it has by itself. -/
theorem Value.isUncommented_dropQuotes {v : Value} {t : Text} (h : v.literal = .ok t) :
    IsUncommented t.dropQuotes ↔ ∀ u ∈ v.freeText?, IsUncommented u := by
  obtain ⟨l, hl, rfl⟩ := Value.literal_eq_ok_iff.mp h
  rw [← Value.isUncommented_content hl, l.dropQuotes_text, Text.doubleQuotes_eq, isUncommented_doubled (by decide)]

private theorem isUncommented_literals {leaves : List Value} {ts : List Text}
    (h : leaves.mapM Value.literal = .ok ts) :
    (∀ t ∈ ts, IsUncommented t) ↔ ∀ u ∈ leaves.filterMap Value.freeText?, IsUncommented u := by
  induction leaves generalizing ts with
  | nil =>
    obtain rfl : [] = ts := Except.ok.inj h
    simp
  | cons leaf leaves ih =>
    obtain ⟨t, rest, hleaf, hrest, rfl⟩ := mapM_cons_eq_ok_iff.mp h
    rw [List.forall_mem_cons, ih hrest, Value.isUncommented_literal hleaf]
    cases hfree : leaf.freeText? with
    | none => simp [List.filterMap_cons_none hfree]
    | some u => simp [List.filterMap_cons_some hfree]

/-- The batches of a value have the marks that its leaves have. -/
theorem Value.isUncommented_literalBatches {v : Value} {batches : List Text} (h : v.literalBatches = .ok batches) :
    (∀ batch ∈ batches, IsUncommented batch) ↔ ∀ u ∈ v.leaves.filterMap Value.freeText?, IsUncommented u := by
  obtain ⟨ts, hts, rfl⟩ := map_eq_ok_iff.mp h
  have hbatch (batch : List Text) :
      IsUncommented (Text.joinWith ", ".toList batch) ↔ ∀ t ∈ batch, IsUncommented t :=
    isUncommented_joinWith (by decide) (by decide) batch
  simp only [List.forall_mem_map, hbatch]
  rw [← List.forall_mem_flatten, flatten_cutAfter]
  exact isUncommented_literals hts

/-- There are no batches if there are no leaves. -/
theorem Value.literalBatches_eq_nil_iff {v : Value} {batches : List Text} (h : v.literalBatches = .ok batches) :
    batches = [] ↔ v.leaves = [] := by
  obtain ⟨ts, hts, rfl⟩ := map_eq_ok_iff.mp h
  have hlength : ts.length = v.leaves.length := (mapM_eq_ok_iff.mp hts).1
  rw [List.map_eq_nil_iff]
  cases ts with
  | nil => simp [cutAfter, List.length_eq_zero_iff.mp hlength.symm]
  | cons t ts =>
    have hne : v.leaves ≠ [] := List.ne_nil_of_length_pos (by rw [← hlength]; exact Nat.succ_pos _)
    simp [cutAfter, hne]

end EntityStore
