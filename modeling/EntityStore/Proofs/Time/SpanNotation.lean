import EntityStore.Proofs.Time.SpanParts
import Mathlib.Algebra.Order.BigOperators.Group.List
import Mathlib.Algebra.Order.Ring.Int

/-!
# The notation of time spans

A text is read as a time span exactly if it has the parts of one, every part says a number, and no sum of these numbers
is too long (`TimeSpan.read?_eq_some_iff`).

What is read is more than the notation: every number may have a sign of its own, and a fraction is any text of which
the first nine characters, filled up with zeros, are a number.  A text that is read has the notation exactly if all
its parts are digits (`TimeSpan.notation_decided`).
-/

namespace EntityStore

/-- The notation of time spans: `[-][d.]h:m:s[.f]`, where every letter stands for digits. -/
def IsSpanText (t : Text) : Prop :=
  ∃ p : SpanParts, p.IsPlain ∧ t = p.toText

/-! ### What the parts say -/

/-- The numbers in a time span; the fraction counts in nanoseconds. -/
structure SpanNumbers where
  days : Int
  hours : Int
  minutes : Int
  seconds : Int
  nanos : Int

namespace SpanNumbers

/-- What the numbers are in nanoseconds. -/
def amounts (n : SpanNumbers) : List Int :=
  [n.days * nanosPerDay, n.hours * nanosPerHour, n.minutes * nanosPerMinute, n.seconds * nanosPerSecond, n.nanos]

/-- The numbers taken together. -/
def total (n : SpanNumbers) : Int :=
  n.amounts.sum

/-- No amount is too long for a time span, and no sum of the first amounts is. -/
structure IsBounded (n : SpanNumbers) : Prop where
  amounts : ∀ amount ∈ n.amounts, amount.natAbs ≤ maxSpanNanos
  sums : ∀ k, (n.amounts.take k).sum.natAbs ≤ maxSpanNanos

end SpanNumbers

/-- What a part says that may be left out; then it says zero. -/
def SaysIfAny (meaning : Text → Int → Prop) : Option Text → Int → Prop
  | none, i => i = 0
  | some t, i => meaning t i

/-- What a fraction says, up to the next colon: nine characters count, with zeros behind them for those that are
missing. -/
def FractionSays (t : Text) (i : Int) : Prop :=
  ':' ∉ t ∧ Text.SaysInt ((t.take 9).rightpad 9 '0') i

namespace SpanParts

/-- The parts of a time span say numbers. -/
structure Says (p : SpanParts) (n : SpanNumbers) : Prop where
  days : SaysIfAny Text.SaysInt p.days? n.days
  hours : p.hours.SaysInt n.hours
  minutes : p.minutes.SaysInt n.minutes
  seconds : p.seconds.SaysInt n.seconds
  fraction : SaysIfAny FractionSays p.fraction? n.nanos

/-- A number under the sign of the time span. -/
def signed (p : SpanParts) (i : Int) : Int :=
  if p.isNegative then -i else i

/-! ### Reading the parts -/

/-- Reads a part that may be left out. -/
def readIfAny? (read? : Text → Option Int) : Option Text → Option Int
  | none => some 0
  | some t => read? t

/-- The numbers that the parts say. -/
def numbers? (p : SpanParts) : Option SpanNumbers := do
  let days ← readIfAny? Text.readInt? p.days?
  let hours ← Text.readInt? p.hours
  let minutes ← Text.readInt? p.minutes
  let seconds ← Text.readInt? p.seconds
  let nanos ← readIfAny? TimeSpan.readFraction? p.fraction?
  pure ⟨days, hours, minutes, seconds, nanos⟩

end SpanParts

/-- The time span of numbers that are added up in order. -/
def SpanNumbers.span? (n : SpanNumbers) : Option TimeSpan := do
  let span ← TimeSpan.ofUnits? n.days nanosPerDay
  let span ← TimeSpan.add? span (← TimeSpan.ofUnits? n.hours nanosPerHour)
  let span ← TimeSpan.add? span (← TimeSpan.ofUnits? n.minutes nanosPerMinute)
  let span ← TimeSpan.add? span (← TimeSpan.ofUnits? n.seconds nanosPerSecond)
  TimeSpan.add? span (← TimeSpan.ofUnits? n.nanos 1)

/-- A time span without a sign is read by taking the text apart, reading its numbers and adding them up. -/
private theorem readMagnitude?_eq (t : Text) :
    TimeSpan.readMagnitude? t = (SpanParts.ofMagnitudeText? t).bind fun p => p.numbers?.bind SpanNumbers.span? := by
  unfold TimeSpan.readMagnitude? SpanParts.ofMagnitudeText?
  generalize t.splitOn ':' = parts
  match parts with
  | [first, minutes, last] =>
    dsimp only
    cases TimeSpan.splitAtPoint first with
    | mk before after? =>
      cases TimeSpan.splitAtPoint last with
      | mk seconds fraction? =>
        -- both sides read the same parts, and nothing is added up before all of them are read
        cases after? <;> cases fraction? <;>
          dsimp only [Option.bind_some, SpanParts.numbers?, SpanParts.readIfAny?]
        case none.none =>
          cases Text.readInt? before <;> cases Text.readInt? minutes <;> cases Text.readInt? seconds <;> rfl
        case none.some fraction =>
          cases Text.readInt? before <;> cases Text.readInt? minutes <;> cases Text.readInt? seconds <;>
            cases TimeSpan.readFraction? fraction <;> rfl
        case some.none hours =>
          cases Text.readInt? before <;> cases Text.readInt? hours <;> cases Text.readInt? minutes <;>
            cases Text.readInt? seconds <;> rfl
        case some.some hours fraction =>
          cases Text.readInt? before <;> cases Text.readInt? hours <;> cases Text.readInt? minutes <;>
            cases Text.readInt? seconds <;> cases TimeSpan.readFraction? fraction <;> rfl
  | [] | [_] | [_, _] | _ :: _ :: _ :: _ :: _ => rfl

private theorem ofNanos?_eq_some_iff {i : Int} {s : TimeSpan} : TimeSpan.ofNanos? i = some s ↔ s.nanos = i := by
  unfold TimeSpan.ofNanos?
  split
  · rw [Option.some.injEq, TimeSpan.mk.injEq, eq_comm]
  · next h => exact iff_of_false (by simp) fun heq => h (heq ▸ s.nanos_le)

private theorem span?_eq_some_iff {n : SpanNumbers} {s : TimeSpan} :
    n.span? = some s ↔ n.IsBounded ∧ s.nanos = n.total := by
  simp only [SpanNumbers.span?, TimeSpan.ofUnits?, TimeSpan.add?, Option.bind_eq_bind, Option.bind_eq_some_iff,
    ofNanos?_eq_some_iff]
  constructor
  · rintro ⟨d, hd, h, hh, dh, hdh, m, hm, dhm, hdhm, sec, hsec, whole, hwhole, f, hf, htotal⟩
    have hamounts : n.amounts = [d, h, m, sec, f].map TimeSpan.nanos := by
      simp [SpanNumbers.amounts, hd, hh, hm, hsec, hf]
    refine ⟨⟨?_, ?_⟩, ?_⟩
    · rw [hamounts]
      exact List.forall_mem_map.mpr fun span _ => span.nanos_le
    · -- the sums of the first amounts are the time spans on the way
      have hdays := d.nanos_le
      have hhours := dh.nanos_le
      have hminutes := dhm.nanos_le
      have hseconds := whole.nanos_le
      have hnanos := s.nanos_le
      rw [hamounts]
      rintro (_ | _ | _ | _ | _ | k) <;>
        simp only [List.map_cons, List.map_nil, List.take_zero, List.take_succ_cons, List.take_nil, List.sum_cons,
          List.sum_nil, Int.natAbs_zero, Nat.zero_le] <;>
        omega
    · simp only [SpanNumbers.total, hamounts, List.map_cons, List.map_nil, List.sum_cons, List.sum_nil]
      omega
  · rintro ⟨⟨hamounts, hsums⟩, htotal⟩
    have hdayHours := hsums 2
    have hminutes := hsums 3
    have hseconds := hsums 4
    simp only [SpanNumbers.total, SpanNumbers.amounts, List.take_succ_cons, List.take_zero, List.sum_cons, List.sum_nil,
      Int.add_zero] at hdayHours hminutes hseconds htotal
    simp only [SpanNumbers.amounts, List.forall_mem_cons] at hamounts
    obtain ⟨hd, hh, hm, hsec, hf, -⟩ := hamounts
    refine ⟨⟨_, hd⟩, rfl, ⟨_, hh⟩, rfl, ⟨_, hdayHours⟩, rfl, ⟨_, hm⟩, rfl, ⟨_, hminutes⟩, ?_, ⟨_, hsec⟩, rfl,
      ⟨_, hseconds⟩, ?_, ⟨_, hf⟩, ?_, ?_⟩ <;>
      dsimp only <;> omega

/-- Amounts that are not negative are no longer than what they add up to. -/
theorem SpanNumbers.IsBounded.of_nonneg {n : SpanNumbers} (h : ∀ amount ∈ n.amounts, 0 ≤ amount)
    (htotal : n.total ≤ maxSpanNanos) : n.IsBounded := by
  have hsum {amounts : List Int} (h : ∀ amount ∈ amounts, 0 ≤ amount) : 0 ≤ amounts.sum := List.sum_nonneg h
  refine ⟨fun amount hamount => ?_, fun k => ?_⟩
  · have hle := List.single_le_sum h amount hamount
    have hnonneg := h amount hamount
    rw [SpanNumbers.total] at htotal
    omega
  · have hparts := List.sum_take_add_sum_drop n.amounts k
    have hfirst := hsum fun amount hamount => h amount (List.mem_of_mem_take (i := k) hamount)
    have hrest := hsum fun amount hamount => h amount (List.mem_of_mem_drop (i := k) hamount)
    rw [SpanNumbers.total] at htotal
    omega

namespace SpanParts

variable {p : SpanParts} {n : SpanNumbers}

theorem Says.withSign (h : p.Says n) (isNegative : Bool) : { p with isNegative }.Says n :=
  ⟨h.days, h.hours, h.minutes, h.seconds, h.fraction⟩

theorem Says.isSeparated (h : p.Says n) : p.IsSeparated := by
  have hnumber {t : Text} {i : Int} (h : t.SaysInt i) : ':' ∉ t ∧ '.' ∉ t :=
    ⟨h.notMem rfl (by decide), h.notMem rfl (by decide)⟩
  have hdays := h.days
  have hfraction := h.fraction
  refine ⟨fun t ht => ?_, ?_, (hnumber h.minutes).1, hnumber h.seconds, fun t ht => ?_⟩
  · rw [show p.days? = some t from ht] at hdays
    exact hnumber hdays
  · exact ⟨(hnumber h.hours).1, fun _ => (hnumber h.hours).2⟩
  · rw [show p.fraction? = some t from ht] at hfraction
    exact hfraction.1

private theorem readIfAny?_eq_some_iff {read? : Text → Option Int} {meaning : Text → Int → Prop} {part? : Option Text}
    {i : Int} (h : ∀ t ∈ part?, read? t = some i ↔ meaning t i) :
    readIfAny? read? part? = some i ↔ SaysIfAny meaning part? i := by
  cases part? with
  | none => exact Option.some_inj.trans eq_comm
  | some t => exact h t rfl

private theorem numbers?_eq_some_iff (h : p.IsSeparated) : p.numbers? = some n ↔ p.Says n := by
  have hdays {i : Int} : readIfAny? Text.readInt? p.days? = some i ↔ SaysIfAny Text.SaysInt p.days? i :=
    readIfAny?_eq_some_iff fun t _ => Text.readInt?_eq_some_iff
  have hfraction {i : Int} : readIfAny? TimeSpan.readFraction? p.fraction? = some i ↔
      SaysIfAny FractionSays p.fraction? i :=
    readIfAny?_eq_some_iff fun t ht => Text.readInt?_eq_some_iff.trans (and_iff_right (h.fraction t ht)).symm
  obtain ⟨days, hours, minutes, seconds, nanos⟩ := n
  simp only [numbers?, Option.bind_eq_bind, Option.bind_eq_some_iff, hdays, hfraction, Text.readInt?_eq_some_iff,
    Option.pure_def, Option.some.injEq, SpanNumbers.mk.injEq]
  constructor
  · rintro ⟨_, h₁, _, h₂, _, h₃, _, h₄, _, h₅, rfl, rfl, rfl, rfl, rfl⟩
    exact ⟨h₁, h₂, h₃, h₄, h₅⟩
  · rintro ⟨h₁, h₂, h₃, h₄, h₅⟩
    exact ⟨_, h₁, _, h₂, _, h₃, _, h₄, _, h₅, rfl, rfl, rfl, rfl, rfl⟩

end SpanParts

private theorem readMagnitude?_eq_some_iff {t : Text} {s : TimeSpan} :
    TimeSpan.readMagnitude? t = some s ↔
      ∃ p n, t = SpanParts.magnitudeText p ∧ p.Says n ∧ n.IsBounded ∧ s.nanos = n.total := by
  simp only [readMagnitude?_eq, Option.bind_eq_some_iff, span?_eq_some_iff]
  constructor
  · rintro ⟨p, htext, n, hn, hspan⟩
    obtain ⟨-, rfl, hseparated⟩ := SpanParts.of_ofMagnitudeText? htext
    exact ⟨p, n, rfl, (SpanParts.numbers?_eq_some_iff hseparated).mp hn, hspan⟩
  · rintro ⟨p, n, rfl, hnumbers, hspan⟩
    have hseparated := hnumbers.isSeparated
    exact ⟨_, hseparated.ofMagnitudeText?, n, (SpanParts.numbers?_eq_some_iff hseparated).mpr hnumbers, hspan⟩

private theorem TimeSpan.negate_negate (s : TimeSpan) : s.negate.negate = s := by
  simp [negate]

/-- What is read as a time span, and as which. -/
theorem TimeSpan.read?_eq_some_iff {t : Text} {s : TimeSpan} :
    read? t = some s ↔
      ∃ p n, t.trim = SpanParts.toText p ∧ p.TakesSign ∧ p.Says n ∧ n.IsBounded ∧ s.nanos = p.signed n.total := by
  unfold read?
  generalize t.trim = u
  constructor
  · intro h
    split at h
    · next rest =>
      obtain ⟨magnitude, hmagnitude, rfl⟩ := Option.map_eq_some_iff.mp h
      obtain ⟨p, n, rfl, hnumbers, hbounded, htotal⟩ := readMagnitude?_eq_some_iff.mp hmagnitude
      exact ⟨{ p with isNegative := true }, n, rfl, .inl rfl, hnumbers.withSign true, hbounded, congrArg Neg.neg htotal⟩
    · next hsign =>
      obtain ⟨p, n, rfl, hnumbers, hbounded, htotal⟩ := readMagnitude?_eq_some_iff.mp h
      refine ⟨{ p with isNegative := false }, n, rfl, .inr fun hhead => ?_, hnumbers.withSign false, hbounded,
        htotal⟩
      obtain ⟨rest, hrest⟩ := List.head?_eq_some_iff.mp hhead
      exact hsign rest hrest
  · rintro ⟨p, n, rfl, hsign, hnumbers, hbounded, htotal⟩
    cases hnegative : p.isNegative with
    | true =>
      have hmagnitude : s.negate.nanos = n.total := by simp [negate, htotal, SpanParts.signed, hnegative]
      have hread := readMagnitude?_eq_some_iff.mpr ⟨p, n, rfl, hnumbers, hbounded, hmagnitude⟩
      simp only [SpanParts.toText, hnegative, if_true, hread, Option.map_some, negate_negate]
    | false =>
      have hmagnitude : s.nanos = n.total := by simp [htotal, SpanParts.signed, hnegative]
      have hread := readMagnitude?_eq_some_iff.mpr ⟨p, n, rfl, hnumbers, hbounded, hmagnitude⟩
      have hhead : p.magnitudeText.head? ≠ some '-' := hsign.resolve_left (by simp [hnegative])
      simp only [SpanParts.toText, hnegative, Bool.false_eq_true, if_false]
      split
      · next rest heq => exact absurd (heq ▸ rfl) hhead
      · exact hread

/-! ### The notation -/

namespace SpanParts

variable {p : SpanParts} {n : SpanNumbers}

/-- A text that is read is in the notation exactly if its parts are digits. -/
theorem isSpanText_toText_iff (hsign : p.TakesSign) (hnumbers : p.Says n) : IsSpanText p.toText ↔ p.IsPlain := by
  constructor
  · rintro ⟨q, hq, htext⟩
    rw [eq_of_toText_eq hnumbers.isSeparated hsign hq.isSeparated hq.takesSign htext]
    exact hq
  · exact fun h => ⟨p, h, rfl⟩

end SpanParts

/-- A text is read as a time span exactly if it has parts that say numbers and these are not too long; and then it has
the notation of time spans exactly if the parts are digits, without signs of their own and with nothing behind the
digits of the fraction. -/
theorem TimeSpan.notation_decided (t : Text) :
    (∀ s, read? t = some s ↔
      ∃ p n, t.trim = SpanParts.toText p ∧ p.TakesSign ∧ p.Says n ∧ n.IsBounded ∧ s.nanos = p.signed n.total) ∧
    ∀ p n, t.trim = SpanParts.toText p → p.TakesSign → p.Says n → (IsSpanText t.trim ↔ p.IsPlain) := by
  refine ⟨fun s => read?_eq_some_iff, fun p n htext hsign hnumbers => ?_⟩
  rw [htext]
  exact SpanParts.isSpanText_toText_iff hsign hnumbers

/-- A negative time span with days and a fraction, between blanks. -/
theorem TimeSpan.notation_decided_fraction :
    let t : Text := " -1.02:03:04.5\n".toList
    read? t = some ⟨-93784500000000, by decide⟩ ∧ IsSpanText t.trim := by
  intro t
  have hdigits {ds : Text} {i : Int} (h : Text.readInt? ds = some i) := Text.readInt?_eq_some_iff.mp h
  have hnumbers : (SpanParts.mk true (some ['1']) ['0', '2'] ['0', '3'] ['0', '4'] (some ['5'])).Says
      ⟨1, 2, 3, 4, 500000000⟩ :=
    ⟨hdigits rfl, hdigits rfl, hdigits rfl, hdigits rfl, by decide, hdigits rfl⟩
  obtain ⟨hread, hplain⟩ := notation_decided t
  have hbounded : (SpanNumbers.mk 1 2 3 4 500000000).IsBounded := .of_nonneg (by decide) (by decide)
  refine ⟨(hread _).mpr ⟨_, _, rfl, .inl rfl, hnumbers, hbounded, rfl⟩, (hplain _ _ rfl (.inl rfl) hnumbers).mpr ?_⟩
  exact ⟨by decide, by decide, by decide, by decide, by decide⟩

/-- Texts that are read although they are not in the notation: with a second sign, with nothing behind the point, and
with a letter behind the digits of the fraction. -/
theorem TimeSpan.not_isSpanText_signed :
    ((read? "--00:00:30".toList).isSome = true ∧ ¬IsSpanText (Text.trim "--00:00:30".toList)) ∧
      ((read? "0:0:1.".toList).isSome = true ∧ ¬IsSpanText (Text.trim "0:0:1.".toList)) ∧
      (read? "0:0:1.123456789x".toList).isSome = true ∧ ¬IsSpanText (Text.trim "0:0:1.123456789x".toList) := by
  have hnumber {ds : Text} {i : Int} (h : Text.readInt? ds = some i) := Text.readInt?_eq_some_iff.mp h
  have hfraction {f : Text} {i : Int} (h : ':' ∉ f) (hf : readFraction? f = some i) : FractionSays f i :=
    ⟨h, hnumber hf⟩
  have hsigned : (SpanParts.mk true none ['-', '0', '0'] ['0', '0'] ['3', '0'] none).Says ⟨0, 0, 0, 30, 0⟩ :=
    ⟨rfl, hnumber rfl, hnumber rfl, hnumber rfl, rfl⟩
  have hempty : (SpanParts.mk false none ['0'] ['0'] ['1'] (some [])).Says ⟨0, 0, 0, 1, 0⟩ :=
    ⟨rfl, hnumber rfl, hnumber rfl, hnumber rfl, hfraction (by decide) rfl⟩
  have hletter : (SpanParts.mk false none ['0'] ['0'] ['1'] (some "123456789x".toList)).Says
      ⟨0, 0, 0, 1, 123456789⟩ :=
    ⟨rfl, hnumber rfl, hnumber rfl, hnumber rfl, hfraction (by decide) rfl⟩
  refine ⟨⟨by decide, fun h => ?_⟩, ⟨by decide, fun h => ?_⟩, by decide, fun h => ?_⟩
  · have hplain := (SpanParts.isSpanText_toText_iff (.inl rfl) hsigned).mp h
    exact absurd hplain.hours (by decide)
  · have hplain := (SpanParts.isSpanText_toText_iff (.inr (by decide)) hempty).mp h
    exact absurd (hplain.fraction [] rfl) (by decide)
  · have hplain := (SpanParts.isSpanText_toText_iff (.inr (by decide)) hletter).mp h
    exact absurd (hplain.fraction _ rfl) (by decide)

end EntityStore
