import EntityStore.Proofs.Time.SpanNotation

/-!
# Time spans are read back from their text

A time span is written in the notation of time spans: its magnitude is taken apart into days, hours, minutes, seconds
and units of a hundred nanoseconds (`TimeSpan.parts`).  What these say is added up again, and as no number is negative
no sum on the way is longer than the time span itself.  So every time span is read back, the longest ones in both
directions too, but for the nanoseconds that are less than a unit (`TimeSpan.read?_toText_truncated`).
-/

namespace EntityStore.TimeSpan

/-- The numbers in the text of a time span. -/
def numbers (s : TimeSpan) : SpanNumbers :=
  let magnitude := s.nanos.natAbs
  let total := magnitude / nanosPerSecond
  { days := (total / 86400 : Nat)
    hours := (total % 86400 / 3600 : Nat)
    minutes := (total % 3600 / 60 : Nat)
    seconds := (total % 60 : Nat)
    nanos := (magnitude % nanosPerSecond / 100 * 100 : Nat) }

/-- The parts of the text of a time span. -/
def parts (s : TimeSpan) : SpanParts :=
  let magnitude := s.nanos.natAbs
  let total := magnitude / nanosPerSecond
  let days := total / 86400
  let ticks := magnitude % nanosPerSecond / 100
  { isNegative := s.nanos < 0
    days? := if 0 < days then some (Text.ofNat days) else none
    hours := Text.ofNatPadded 2 (total % 86400 / 3600)
    minutes := Text.ofNatPadded 2 (total % 3600 / 60)
    seconds := Text.ofNatPadded 2 (total % 60)
    fraction? := if 0 < ticks then some (Text.ofNatPadded 7 ticks) else none }

private theorem toText_eq (s : TimeSpan) : s.toText = s.parts.toText := by
  have hfront (isNegative : Bool) (days : Nat) (hours minutes seconds : Text) (fraction? : Option Text) :
      SpanParts.front
          ⟨isNegative, if 0 < days then some (Text.ofNat days) else none, hours, minutes, seconds, fraction?⟩ =
        (if 0 < days then Text.ofNat days ++ ['.'] else []) ++ hours := by
    by_cases hdays : 0 < days <;> simp [SpanParts.front, withPoint, hdays]
  have hticks (ticks : Nat) (seconds : Text) :
      seconds ++ (if 0 < ticks then '.' :: Text.ofNatPadded 7 ticks else []) =
        withPoint seconds (if 0 < ticks then some (Text.ofNatPadded 7 ticks) else none) := by
    split <;> simp [withPoint]
  simp only [toText, SpanParts.toText, SpanParts.magnitudeText, SpanParts.back, parts, hfront, ← hticks,
    List.append_assoc, List.cons_append, decide_eq_true_eq]
  split <;> rfl

private theorem isPlain_parts (s : TimeSpan) : s.parts.IsPlain := by
  refine ⟨fun t ht => ?_, Text.isDigits_ofNatPadded (by decide) _, Text.isDigits_ofNatPadded (by decide) _,
    Text.isDigits_ofNatPadded (by decide) _, fun t ht => ?_⟩
  · obtain ⟨-, hdays⟩ := Option.ite_none_right_eq_some.mp ht
    exact Option.some.inj hdays ▸ Text.isDigits_ofNat _
  · obtain ⟨-, hticks⟩ := Option.ite_none_right_eq_some.mp ht
    exact Option.some.inj hticks ▸ Text.isDigits_ofNatPadded (by decide) _

/-- Seven digits say units of a hundred nanoseconds. -/
private theorem fractionSays_ticks {ticks : Nat} (h : ticks < 10 ^ 7) :
    FractionSays (Text.ofNatPadded 7 ticks) (ticks * 100 : Nat) := by
  have hlength := Text.length_ofNatPadded (by decide) h
  have hdigits : (Text.ofNatPadded 7 ticks).IsDigits := Text.isDigits_ofNatPadded (by decide) ticks
  refine ⟨fun hcolon => absurd (hdigits.2 _ hcolon) (by decide), ?_⟩
  rw [List.take_of_length_le (by omega), List.rightpad, hlength]
  have hvalue : Nat.ofDigitChars 10 (Text.ofNatPadded 7 ticks ++ ['0', '0']) 0 = ticks * 100 := by
    rw [Nat.ofDigitChars_append, Text.ofDigitChars_ofNatPadded]
    simp only [Nat.ofDigitChars, List.foldl_cons, List.foldl_nil]
    omega
  rw [← hvalue]
  refine .unsigned ⟨by simp, fun c hc => ?_⟩
  rcases List.mem_append.mp hc with hc | hc
  · exact hdigits.2 c hc
  · obtain rfl := List.eq_of_mem_replicate hc
    rfl

private theorem says_numbers (s : TimeSpan) : s.parts.Says s.numbers := by
  refine ⟨?_, Text.saysInt_ofNatPadded (by decide) _, Text.saysInt_ofNatPadded (by decide) _,
    Text.saysInt_ofNatPadded (by decide) _, ?_⟩
  · show SaysIfAny _ (if _ then _ else none) _
    split
    · exact Text.readInt?_eq_some_iff.mp (Text.readInt?_ofNat _)
    · next hdays => exact congrArg Int.ofNat (Nat.eq_zero_of_not_pos hdays)
  · show SaysIfAny _ (if _ then _ else none) _
    split
    · refine fractionSays_ticks ?_
      have hlt : s.nanos.natAbs % nanosPerSecond < nanosPerSecond := Nat.mod_lt _ (by decide)
      rw [nanosPerSecond] at hlt ⊢
      omega
    · next hticks =>
      show ((_ * 100 : Nat) : Int) = 0
      rw [Nat.eq_zero_of_not_pos hticks]
      rfl

private theorem total_numbers (s : TimeSpan) : s.numbers.total = (s.nanos.natAbs / 100 * 100 : Nat) := by
  simp only [SpanNumbers.total, SpanNumbers.amounts, numbers, List.sum_cons, List.sum_nil, nanosPerDay, nanosPerHour,
    nanosPerMinute, nanosPerSecond]
  omega

private theorem isBounded_numbers (s : TimeSpan) : s.numbers.IsBounded := by
  have hproduct (count unit : Nat) : (0 : Int) ≤ count * unit :=
    Int.mul_nonneg (Int.natCast_nonneg count) (Int.natCast_nonneg unit)
  refine .of_nonneg ?_ ?_
  · simp only [SpanNumbers.amounts, numbers, List.forall_mem_cons]
    exact ⟨hproduct _ _, hproduct _ _, hproduct _ _, hproduct _ _, Int.natCast_nonneg _, by simp⟩
  · have hle := s.nanos_le
    rw [total_numbers]
    omega

private theorem signed_parts (s : TimeSpan) : s.parts.signed s.numbers.total = s.nanos.tdiv 100 * 100 := by
  have hsign : s.parts.isNegative = decide (s.nanos < 0) := rfl
  rw [SpanParts.signed, total_numbers, hsign]
  grind

/-- Every time span is read back from its text as itself, truncated toward zero to whole units of a hundred
nanoseconds; no number in the text and no sum of the numbers is too long. -/
theorem read?_toText_truncated (s : TimeSpan) :
    ∃ back, read? s.toText = some back ∧ back.nanos = s.nanos.tdiv 100 * 100 ∧ (100 ∣ s.nanos → back = s) ∧
      ∃ p n, s.toText = SpanParts.toText p ∧ p.IsPlain ∧ p.Says n ∧ n.IsBounded := by
  have hle : (s.nanos.tdiv 100 * 100).natAbs ≤ maxSpanNanos := by
    have hle := s.nanos_le
    grind
  have hplain := s.isPlain_parts
  have htrim : s.toText.trim = s.parts.toText := by
    rw [toText_eq]
    exact Text.trim_of_not_isBlank hplain.not_isBlank
  refine ⟨⟨s.nanos.tdiv 100 * 100, hle⟩, ?_, rfl, fun hdvd => ?_, _, _, s.toText_eq, hplain, s.says_numbers,
    s.isBounded_numbers⟩
  · exact read?_eq_some_iff.mpr
      ⟨_, _, htrim, hplain.takesSign, s.says_numbers, s.isBounded_numbers, s.signed_parts.symm⟩
  · obtain ⟨i, hi⟩ := s
    simp only [mk.injEq]
    exact Int.tdiv_mul_cancel hdvd

/-- The longest time span in the negative direction, and one with a nanosecond that is not written. -/
theorem read?_toText_truncated_extremes :
    let longest : TimeSpan := ⟨-9223372036854775807000000, by decide⟩
    let inexact : TimeSpan := ⟨-93784000000101, by decide⟩
    longest.toText = "-106751991167.07:12:55.8070000".toList ∧ read? longest.toText = some longest ∧
      inexact.toText = "-1.02:03:04.0000001".toList ∧
      ∃ back, read? inexact.toText = some back ∧ back.nanos = -93784000000100 := by
  intro longest inexact
  obtain ⟨_, hlongest, -, hexact, -⟩ := read?_toText_truncated longest
  obtain ⟨back, hback, hnanos, -⟩ := read?_toText_truncated inexact
  exact ⟨by decide, hexact (by decide) ▸ hlongest, by decide, back, hback, hnanos⟩

end EntityStore.TimeSpan
