import EntityStore.Guid
import EntityStore.Proofs.Text.Numbers

/-!
# Guids are read back from their text

The text of a guid is its thirty-two digits in five groups, and reading the groups finds the digits again
(`Guid.read?_toText`).
-/

namespace EntityStore.Guid

theorem length_plainText (g : Guid) : g.plainText.length = 32 := by
  rw [plainText, List.length_map, g.length_eq]

private theorem exists_of_mem_toText {g : Guid} {c : Char} (hc : c ∈ g.toText) :
    c = '-' ∨ ∃ d, Text.hexDigit d = c := by
  have hplain {t : Text} (hsub : t.Sublist g.plainText) (h : c ∈ t) : ∃ d, Text.hexDigit d = c := by
    obtain ⟨d, -, hd⟩ := List.mem_map.mp (hsub.subset h)
    exact ⟨d, hd⟩
  have hgroup (k : Nat) : ((g.plainText.drop k).take 4).Sublist g.plainText :=
    (List.take_sublist 4 _).trans (List.drop_sublist k _)
  simp only [toText, List.mem_append, List.mem_cons] at hc
  rcases hc with (((h | rfl | h) | rfl | h) | rfl | h) | rfl | h
  · exact .inr (hplain (List.take_sublist 8 _) h)
  · exact .inl rfl
  · exact .inr (hplain (hgroup 8) h)
  · exact .inl rfl
  · exact .inr (hplain (hgroup 12) h)
  · exact .inl rfl
  · exact .inr (hplain (hgroup 16) h)
  · exact .inl rfl
  · exact .inr (hplain (List.drop_sublist 20 _) h)

private theorem isBlank_hexDigit (d : Fin 16) : Text.isBlank (Text.hexDigit d) = false := by
  revert d
  decide

theorem trim_toText (g : Guid) : g.toText.trim = g.toText := by
  refine Text.trim_of_not_isBlank fun c hc => ?_
  rcases exists_of_mem_toText hc with rfl | ⟨d, rfl⟩
  · decide
  · exact isBlank_hexDigit d

private theorem readPlain?_plainText (g : Guid) : readPlain? g.plainText = some g := by
  have hdigits : g.plainText.mapM Text.hexDigitValue? = some g.digits := by
    have hsome : Text.hexDigitValue? ∘ Text.hexDigit = some := funext Text.hexDigitValue?_hexDigit
    rw [plainText, List.mapM_map, hsome]
    exact List.mapM_pure.trans (congrArg some (List.map_id _))
  rw [readPlain?, hdigits, Option.bind_eq_bind, Option.bind_some, ofDigits?, dif_pos g.length_eq]

/-- Thirty-two digits in the five groups in which they are written. -/
private theorem exists_groups {t : Text} (h : t.length = 32) :
    ∃ a b c d e : Text, t = a ++ (b ++ (c ++ (d ++ e))) ∧
      a.length = 8 ∧ b.length = 4 ∧ c.length = 4 ∧ d.length = 4 ∧ e.length = 12 := by
  have hsplit (k n : Nat) : t.drop k = (t.drop k).take n ++ t.drop (k + n) := by
    rw [← List.drop_drop, List.take_append_drop]
  refine ⟨t.take 8, (t.drop 8).take 4, (t.drop 12).take 4, (t.drop 16).take 4, t.drop 20, ?_, ?_⟩
  · rw [← hsplit 16 4, ← hsplit 12 4, ← hsplit 8 4, List.take_append_drop]
  · simp [h]

private theorem readHyphenated?_groups {a b c d e : Text} (ha : a.length = 8) (hb : b.length = 4) (hc : c.length = 4)
    (hd : d.length = 4) (he : e.length = 12) :
    readHyphenated? (a ++ '-' :: (b ++ '-' :: (c ++ '-' :: (d ++ '-' :: e)))) =
      readPlain? (a ++ (b ++ (c ++ (d ++ e)))) := by
  simp [readHyphenated?, List.drop_append, List.drop_eq_nil_of_le, ha, hb, hc, hd, he]

private theorem readHyphenated?_toText (g : Guid) : g.toText.length = 36 ∧ readHyphenated? g.toText = some g := by
  obtain ⟨a, b, c, d, e, hplain, ha, hb, hc, hd, he⟩ := exists_groups g.length_plainText
  have htext : g.toText = a ++ '-' :: (b ++ '-' :: (c ++ '-' :: (d ++ '-' :: e))) := by
    simp [toText, hplain, List.drop_append, List.drop_eq_nil_of_le, ha, hb, hc, hd]
  constructor
  · simp [htext, ha, hb, hc, hd, he]
  · rw [htext, readHyphenated?_groups ha hb hc hd he, ← hplain, g.readPlain?_plainText]

private theorem exists_toText_eq_cons (g : Guid) : ∃ d rest, g.toText = Text.hexDigit d :: rest := by
  obtain ⟨digits, hlength⟩ := g
  cases digits with
  | nil => simp at hlength
  | cons d ds => exact ⟨d, _, rfl⟩

/-- A digit begins neither a guid in braces nor a resource name. -/
private theorem hexDigit_ne (d : Fin 16) : Text.hexDigit d ≠ '{' ∧ (Text.hexDigit d).toLower ≠ 'u' := by
  revert d
  decide

/-- Reading the text of a guid finds the guid. -/
theorem read?_toText (g : Guid) : read? g.toText = some g := by
  obtain ⟨hlength, hread⟩ := g.readHyphenated?_toText
  obtain ⟨d, rest, htext⟩ := g.exists_toText_eq_cons
  obtain ⟨hbrace, hresource⟩ := hexDigit_ne d
  have hmark : Text.equalIgnoringCase (g.toText.take resourceMark.length) resourceMark = false := by
    have hletter : resourceMark.toAsciiLower = 'u' :: "rn:uuid:".toList := by decide
    rw [Text.equalIgnoringCase, hletter, htext, show resourceMark.length = 8 + 1 from rfl, List.take_succ_cons]
    simp [Text.toAsciiLower, hresource]
  unfold read?
  split
  · next inside heq =>
    rw [htext] at heq
    exact absurd (List.cons.inj heq).1 hbrace
  · rw [if_neg (by simp [hmark]), if_pos hlength, hread]

end EntityStore.Guid
