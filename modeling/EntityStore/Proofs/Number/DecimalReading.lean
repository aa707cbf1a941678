import EntityStore.Proofs.Text.Numbers

/-!
# Decimals are read back from their text

The text of a decimal says its mantissa and its scale: the digits, taken together, are the mantissa, and as many of
them as the scale says stand after the point.  Reading the text therefore finds the decimal itself and not only one
of the same value (`Decimal.read?_toText`).
-/

namespace EntityStore.Decimal

/-! ### Digits of a mantissa -/

private theorem le_ofDigitChars (ds : Text) (m : Nat) : m ≤ Nat.ofDigitChars 10 ds m := by
  induction ds generalizing m with
  | nil => exact Nat.le_refl m
  | cons c ds ih =>
    rw [Nat.ofDigitChars_cons]
    exact Nat.le_trans (by omega) (ih _)

private theorem readDigits_digit {c : Char} (hc : c.isDigit = true) {m : Nat}
    (hm : 10 * m + (c.toNat - '0'.toNat) < mantissaBound) (pointSeen digitSeen : Bool) (scale : Nat) (rest : Text) :
    readDigits pointSeen digitSeen m scale (c :: rest) =
      if pointSeen && decide (maxScale ≤ scale + 1) then
        readPastScale (10 * m + (c.toNat - '0'.toNat)) (scale + 1) rest
      else readDigits pointSeen true (10 * m + (c.toNat - '0'.toNat)) (if pointSeen then scale + 1 else 0) rest := by
  rw [readDigits, if_pos hc]
  simp only [Nat.mul_comm m 10]
  rw [if_neg (Nat.not_le.mpr hm)]

/-- The digits before the point make a mantissa without scale. -/
private theorem readDigits_whole {ds : Text} (hds : ∀ c ∈ ds, c.isDigit = true) (hne : ds ≠ []) {m : Nat}
    (hm : Nat.ofDigitChars 10 ds m < mantissaBound) (digitSeen : Bool) (rest : Text) :
    readDigits false digitSeen m 0 (ds ++ rest) = readDigits false true (Nat.ofDigitChars 10 ds m) 0 rest := by
  induction ds generalizing m digitSeen with
  | nil => exact absurd rfl hne
  | cons c ds ih =>
    rw [Nat.ofDigitChars_cons] at hm
    have hnext := readDigits_digit (hds c (List.mem_cons_self ..))
      (Nat.lt_of_le_of_lt (le_ofDigitChars ds _) hm) false digitSeen 0 (ds ++ rest)
    rw [List.cons_append, hnext, Nat.ofDigitChars_cons]
    simp only [Bool.false_and, Bool.false_eq_true, if_false]
    cases ds with
    | nil => rfl
    | cons d ds => exact ih (fun c hc => hds c (List.mem_cons_of_mem _ hc)) (List.cons_ne_nil d ds) hm true

/-- The digits after the point go on with the mantissa, and each counts in the scale. -/
private theorem readDigits_fraction {ds : Text} (hds : ∀ c ∈ ds, c.isDigit = true) {m scale : Nat}
    (hm : Nat.ofDigitChars 10 ds m < mantissaBound) (hscale : scale + ds.length ≤ maxScale) :
    readDigits true true m scale ds = some (Nat.ofDigitChars 10 ds m, scale + ds.length) := by
  induction ds generalizing m scale with
  | nil => rfl
  | cons c ds ih =>
    rw [Nat.ofDigitChars_cons] at hm
    rw [List.length_cons] at hscale
    rw [readDigits_digit (hds c (List.mem_cons_self ..)) (Nat.lt_of_le_of_lt (le_ofDigitChars ds _) hm),
      Nat.ofDigitChars_cons, List.length_cons]
    simp only [Bool.true_and, if_true, decide_eq_true_eq]
    split
    · -- the scale is used up, so that this was the last digit
      next hfull =>
      obtain rfl : ds = [] := List.length_eq_zero_iff.mp (by omega)
      rfl
    · rw [ih (fun c hc => hds c (List.mem_cons_of_mem _ hc)) hm (by omega), Nat.add_right_comm, Nat.add_assoc]

/-- Reading the text of a magnitude finds the magnitude and its scale. -/
private theorem readDigits_magnitudeText {m scale : Nat} (hm : m < mantissaBound) (hscale : scale ≤ maxScale) :
    readDigits false false 0 0 (magnitudeText m scale) = some (m, scale) := by
  have hvalue := Text.ofDigitChars_ofNatPadded (scale + 1) m
  have hlength := Text.le_length_ofNatPadded (scale + 1) m
  have hdigits : ∀ c ∈ Text.ofNatPadded (scale + 1) m, c.isDigit = true := fun _ => Text.isDigit_of_mem_ofNatPadded
  unfold magnitudeText
  generalize Text.ofNatPadded (scale + 1) m = digits at hvalue hlength hdigits ⊢
  have hwhole : ∀ c ∈ digits.take (digits.length - scale), c.isDigit = true :=
    fun c hc => hdigits c (List.mem_of_mem_take hc)
  have hfraction : ∀ c ∈ digits.drop (digits.length - scale), c.isDigit = true :=
    fun c hc => hdigits c (List.mem_of_mem_drop hc)
  have hne : digits.take (digits.length - scale) ≠ [] :=
    List.ne_nil_of_length_pos (by rw [List.length_take]; omega)
  have hsplit : Nat.ofDigitChars 10 (digits.drop (digits.length - scale))
      (Nat.ofDigitChars 10 (digits.take (digits.length - scale)) 0) = m := by
    rw [← Nat.ofDigitChars_append, List.take_append_drop, hvalue]
  have hbound : Nat.ofDigitChars 10 (digits.take (digits.length - scale)) 0 < mantissaBound :=
    Nat.lt_of_le_of_lt (hsplit ▸ le_ofDigitChars _ _) hm
  dsimp only
  split
  · next hzero =>
    subst hzero
    rw [Nat.sub_zero, List.take_length] at hbound hwhole hne ⊢
    have hread := readDigits_whole hwhole hne hbound false []
    rw [List.append_nil, hvalue] at hread
    rw [hread]
    rfl
  · have hpoint (m : Nat) (rest : Text) : readDigits false true m 0 ('.' :: rest) = readDigits true true m 0 rest := rfl
    rw [readDigits_whole hwhole hne hbound, hpoint,
      readDigits_fraction hfraction (hsplit.symm ▸ hm) (by rw [List.length_drop]; omega), hsplit, List.length_drop,
      Nat.zero_add, Nat.sub_sub_self (by omega)]

/-! ### The text of a decimal -/

private theorem ofParts?_mantissa (d : Decimal) : ofParts? d.mantissa d.scale = some d := by
  rw [ofParts?, dif_pos ⟨d.mantissa_lt, d.scale_le⟩]

private theorem read?_of_isNumeral {t : Text} (h : isNumeral t = true) : read? t = readPlain? t := by
  have hbase : t.takeWhile (fun c => c != 'e' && c != 'E') = t := by
    refine List.takeWhile_eq_self_iff.mpr fun c hc => ?_
    have hnumeral := Numeral.isNumeralChar_of_mem ⟨t, h⟩ c hc
    simp only [Bool.and_eq_true, bne_iff_ne]
    constructor <;> rintro rfl <;> exact absurd hnumeral (by decide)
  simp only [read?, hbase, List.drop_length]

/-- Reading the text of a decimal finds the decimal. -/
theorem read?_toText (d : Decimal) : read? d.toText = some d := by
  have hread := readDigits_magnitudeText d.mantissa_lt d.scale_le
  rw [read?_of_isNumeral d.isNumeral_toText]
  unfold toText
  split
  · next hnegative =>
    have hmantissa : -1 * (d.mantissa.natAbs : Int) = d.mantissa := by omega
    simp only [readPlain?, hread, Option.bind_eq_bind, Option.bind_some, hmantissa, ofParts?_mantissa]
  · next hnegative =>
    have hmantissa : 1 * (d.mantissa.natAbs : Int) = d.mantissa := by omega
    -- a magnitude does not start with a sign
    have hhead {c : Char} {rest : Text} (hsign : c.isDigit = false) (hpoint : c ≠ '.')
        (heq : magnitudeText d.mantissa.natAbs d.scale = c :: rest) : False := by
      rw [heq, readDigits, if_neg (by simp [hsign]), if_neg (by simp), if_neg (by simp [hpoint])] at hread
      simp at hread
    unfold readPlain?
    split
    · next rest heq => exact (hhead (by decide) (by decide) heq).elim
    · next rest heq => exact (hhead (by decide) (by decide) heq).elim
    · simp only [hread, Option.bind_eq_bind, Option.bind_some, hmantissa, ofParts?_mantissa]

end EntityStore.Decimal
