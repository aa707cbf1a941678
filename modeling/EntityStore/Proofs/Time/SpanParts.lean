import EntityStore.Proofs.Text.Numbers
import EntityStore.Proofs.Text.Searching
import EntityStore.Time.Span

/-!
# The parts of written time spans

A time span is written as numbers between colons, with days before a point in front and a fraction behind a point at
the end, after a minus sign if it is negative (`SpanParts`).  Taking a text apart at its colons and points finds the
parts again if none of them has a mark that would end it (`SpanParts.IsSeparated.ofMagnitudeText?`), so that a text has
one way to be taken apart (`SpanParts.eq_of_toText_eq`).
-/

namespace EntityStore

/-! ### The parts of a time span -/

/-- A text with another one behind a point, if there is one. -/
def withPoint (before : Text) : Option Text → Text
  | none => before
  | some after => before ++ '.' :: after

/-- A time span as it is written.  The days and the fraction may be left out. -/
structure SpanParts where
  isNegative : Bool := false
  days? : Option Text := none
  hours : Text
  minutes : Text
  seconds : Text
  fraction? : Option Text := none

namespace SpanParts

/-- What stands before the first colon, apart from the sign of the time span. -/
def front (p : SpanParts) : Text :=
  match p.days? with
  | none => p.hours
  | some days => withPoint days (some p.hours)

/-- What stands behind the last colon. -/
def back (p : SpanParts) : Text :=
  withPoint p.seconds p.fraction?

/-- The text without the sign in front. -/
def magnitudeText (p : SpanParts) : Text :=
  p.front ++ ':' :: (p.minutes ++ ':' :: p.back)

/-- The text of a time span that has these parts. -/
def toText (p : SpanParts) : Text :=
  if p.isNegative then '-' :: p.magnitudeText else p.magnitudeText

/-- A minus sign in front is that of the time span and not that of its first number. -/
def TakesSign (p : SpanParts) : Prop :=
  p.isNegative = true ∨ p.magnitudeText.head? ≠ some '-'

/-- All parts are digits. -/
structure IsPlain (p : SpanParts) : Prop where
  days : ∀ t ∈ p.days?, Text.IsDigits t
  hours : p.hours.IsDigits
  minutes : p.minutes.IsDigits
  seconds : p.seconds.IsDigits
  fraction : ∀ t ∈ p.fraction?, Text.IsDigits t

end SpanParts

/-! ### Taking a text apart -/

private theorem splitAtPoint_eq_iff {t before : Text} {after? : Option Text} :
    TimeSpan.splitAtPoint t = (before, after?) ↔ t = withPoint before after? ∧ '.' ∉ before := by
  unfold TimeSpan.splitAtPoint
  cases hsplit : Text.splitFirst? ['.'] t with
  | none =>
    have hpoint := Text.splitFirst?_singleton_eq_none_iff.mp hsplit
    cases after? with
    | none =>
      refine ⟨fun h => ?_, fun h => by rw [h.1]; rfl⟩
      obtain ⟨rfl, -⟩ := Prod.mk.inj h
      exact ⟨rfl, hpoint⟩
    | some after =>
      refine iff_of_false (by simp) fun h => hpoint ?_
      rw [h.1]
      exact List.mem_append_right before List.mem_cons_self
  | some parts =>
    obtain ⟨b, a⟩ := parts
    have hparts := Text.splitFirst?_singleton_eq_some_iff.mp hsplit
    cases after? with
    | none =>
      refine iff_of_false (by simp) fun h => h.2 ?_
      rw [← show t = before from h.1, hparts.1]
      exact List.mem_append_right b List.mem_cons_self
    | some after =>
      show (b, some a) = (before, some after) ↔ t = before ++ '.' :: after ∧ '.' ∉ before
      rw [← Text.splitFirst?_singleton_eq_some_iff, hsplit]
      simp

private theorem splitOn_eq_iff {t first second third : Text} :
    t.splitOn ':' = [first, second, third] ↔
      t = first ++ ':' :: (second ++ ':' :: third) ∧ ':' ∉ first ∧ ':' ∉ second ∧ ':' ∉ third := by
  constructor
  · intro h
    have htext : [':'].intercalate (t.splitOn ':') = t := List.intercalate_splitOn ':'
    have hparts : ∀ part ∈ [first, second, third], ':' ∉ part := fun part hpart =>
      Text.notMem_of_mem_splitOn (h ▸ hpart)
    rw [h] at htext
    exact ⟨by simpa [List.intercalate] using htext.symm, by simpa using hparts⟩
  · rintro ⟨rfl, hfirst, hsecond, hthird⟩
    rw [List.splitOn_append_cons_self_of_not_mem hfirst, List.splitOn_append_cons_self_of_not_mem hsecond,
      List.splitOn_eq_singleton hthird]

namespace SpanParts

/-- No part has a mark that would end it. -/
structure IsSeparated (p : SpanParts) : Prop where
  days : ∀ t ∈ p.days?, ':' ∉ t ∧ '.' ∉ t
  hours : ':' ∉ p.hours ∧ (p.days? = none → '.' ∉ p.hours)
  minutes : ':' ∉ p.minutes
  seconds : ':' ∉ p.seconds ∧ '.' ∉ p.seconds
  fraction : ∀ t ∈ p.fraction?, ':' ∉ t

/-- The parts of a text without a sign in front. -/
def ofMagnitudeText? (t : Text) : Option SpanParts :=
  match t.splitOn ':' with
  | [first, minutes, last] =>
    let (seconds, fraction?) := TimeSpan.splitAtPoint last
    match TimeSpan.splitAtPoint first with
    | (days, some hours) => some { days? := some days, hours, minutes, seconds, fraction? }
    | (hours, none) => some { hours, minutes, seconds, fraction? }
  | _ => none

variable {p : SpanParts}

private theorem notMem_withPoint {before : Text} {after? : Option Text} :
    ':' ∉ withPoint before after? ↔ ':' ∉ before ∧ ∀ t ∈ after?, ':' ∉ t := by
  cases after? <;> simp [withPoint]

theorem IsSeparated.ofMagnitudeText? (h : p.IsSeparated) :
    SpanParts.ofMagnitudeText? p.magnitudeText = some { p with isNegative := false } := by
  obtain ⟨isNegative, days?, hours, minutes, seconds, fraction?⟩ := p
  have hback : TimeSpan.splitAtPoint (withPoint seconds fraction?) = (seconds, fraction?) :=
    splitAtPoint_eq_iff.mpr ⟨rfl, h.seconds.2⟩
  have hlast : ':' ∉ withPoint seconds fraction? := notMem_withPoint.mpr ⟨h.seconds.1, h.fraction⟩
  cases days? with
  | none =>
    have hfront : TimeSpan.splitAtPoint hours = (hours, none) := splitAtPoint_eq_iff.mpr ⟨rfl, h.hours.2 rfl⟩
    have hsplit := splitOn_eq_iff.mpr ⟨rfl, h.hours.1, h.minutes, hlast⟩
    simp only [SpanParts.ofMagnitudeText?, magnitudeText, front, back, hsplit, hback, hfront]
  | some days =>
    obtain ⟨hcolon, hpoint⟩ := h.days days rfl
    have hfront : TimeSpan.splitAtPoint (withPoint days (some hours)) = (days, some hours) :=
      splitAtPoint_eq_iff.mpr ⟨rfl, hpoint⟩
    have hfirst : ':' ∉ withPoint days (some hours) := notMem_withPoint.mpr ⟨hcolon, by simpa using h.hours.1⟩
    have hsplit := splitOn_eq_iff.mpr ⟨rfl, hfirst, h.minutes, hlast⟩
    simp only [SpanParts.ofMagnitudeText?, magnitudeText, front, back, hsplit, hback, hfront]

theorem of_ofMagnitudeText? {t : Text} (h : ofMagnitudeText? t = some p) :
    p.isNegative = false ∧ t = p.magnitudeText ∧ p.IsSeparated := by
  unfold ofMagnitudeText? at h
  split at h
  · next first minutes last hsplit =>
    obtain ⟨htext, hfirst, hminutes, hlast⟩ := splitOn_eq_iff.mp hsplit
    cases hback : TimeSpan.splitAtPoint last with
    | mk seconds fraction? =>
      cases hfront : TimeSpan.splitAtPoint first with
      | mk before after? =>
        obtain ⟨rfl, hseconds⟩ := splitAtPoint_eq_iff.mp hback
        obtain ⟨rfl, hbefore⟩ := splitAtPoint_eq_iff.mp hfront
        obtain ⟨hsecondsColon, hfraction⟩ := notMem_withPoint.mp hlast
        obtain ⟨hbeforeColon, hafter⟩ := notMem_withPoint.mp hfirst
        rw [hback, hfront] at h
        cases after? with
        | none =>
          obtain rfl := Option.some.inj h
          exact ⟨rfl, htext, by simp, ⟨hbeforeColon, fun _ => hbefore⟩, hminutes, ⟨hsecondsColon, hseconds⟩, hfraction⟩
        | some hours =>
          obtain rfl := Option.some.inj h
          refine ⟨rfl, htext, ?_, ⟨hafter hours rfl, by simp⟩, hminutes, ⟨hsecondsColon, hseconds⟩, hfraction⟩
          simpa using ⟨hbeforeColon, hbefore⟩
  · exact nomatch h

/-! ### Parts that are digits -/

theorem IsPlain.isSeparated (h : p.IsPlain) : p.IsSeparated := by
  have hdigits {t : Text} (h : t.IsDigits) : ':' ∉ t ∧ '.' ∉ t :=
    ⟨fun hc => absurd (h.2 _ hc) (by decide), fun hc => absurd (h.2 _ hc) (by decide)⟩
  exact ⟨fun t ht => hdigits (h.days t ht), ⟨(hdigits h.hours).1, fun _ => (hdigits h.hours).2⟩,
    (hdigits h.minutes).1, hdigits h.seconds, fun t ht => (hdigits (h.fraction t ht)).1⟩

/-- What begins with a digit has no sign of its own. -/
theorem IsPlain.takesSign (h : p.IsPlain) : p.TakesSign := by
  have hhead {t : Text} (ht : t.IsDigits) (rest : Text) : (t ++ rest).head? ≠ some '-' := by
    obtain ⟨c, ds, rfl⟩ := List.exists_cons_of_ne_nil ht.1
    rintro heq
    exact absurd (ht.2 c List.mem_cons_self) (by rw [Option.some.inj heq]; decide)
  refine .inr ?_
  unfold magnitudeText front
  cases hdays : p.days? with
  | none => exact hhead h.hours _
  | some days =>
    simp only [withPoint, List.append_assoc]
    exact hhead (h.days days hdays) _

/-- Digits and the marks between them are not white space. -/
theorem IsPlain.not_isBlank (h : p.IsPlain) : ∀ c ∈ p.toText, Text.isBlank c = false := by
  have hdigits {t : Text} (h : t.IsDigits) : ∀ c ∈ t, Text.isBlank c = false :=
    fun c hc => Text.isBlank_of_isDigit (h.2 c hc)
  have hpoint {before : Text} {after? : Option Text} (h : before.IsDigits) (h' : ∀ t ∈ after?, Text.IsDigits t) :
      ∀ c ∈ withPoint before after?, Text.isBlank c = false := by
    cases after? with
    | none => exact hdigits h
    | some after =>
      exact List.forall_mem_append.mpr ⟨hdigits h, List.forall_mem_cons.mpr ⟨by decide, hdigits (h' _ rfl)⟩⟩
  have hfront : ∀ c ∈ p.front, Text.isBlank c = false := by
    unfold front
    cases hdays : p.days? with
    | none => exact hdigits h.hours
    | some days => exact hpoint (h.days days hdays) (by simpa using h.hours)
  have hmagnitude : ∀ c ∈ p.magnitudeText, Text.isBlank c = false := by
    simp only [magnitudeText, List.forall_mem_append, List.forall_mem_cons]
    exact ⟨hfront, by decide, hdigits h.minutes, by decide, hpoint h.seconds h.fraction⟩
  unfold toText
  split
  · exact List.forall_mem_cons.mpr ⟨by decide, hmagnitude⟩
  · exact hmagnitude

/-! ### One way to be taken apart -/

/-- A text has one way to be taken apart. -/
theorem eq_of_toText_eq {q : SpanParts} (hp : p.IsSeparated) (hpsign : p.TakesSign) (hq : q.IsSeparated)
    (hqsign : q.TakesSign) (h : p.toText = q.toText) : p = q := by
  have heq (hsign : p.isNegative = q.isNegative) (hmagnitude : p.magnitudeText = q.magnitudeText) : p = q := by
    have hparts := hp.ofMagnitudeText?
    rw [hmagnitude, hq.ofMagnitudeText?, Option.some.injEq, SpanParts.mk.injEq] at hparts
    obtain ⟨-, h₁, h₂, h₃, h₄, h₅⟩ := hparts
    cases p
    cases q
    simp_all
  have hother {p q : SpanParts} (hq : q.TakesSign) (hpositive : q.isNegative = false)
      (h : '-' :: p.magnitudeText = q.magnitudeText) : False :=
    (hq.resolve_left (by simp [hpositive])) (h ▸ rfl)
  unfold toText at h
  cases hpn : p.isNegative <;> cases hqn : q.isNegative <;>
    simp only [hpn, hqn, Bool.false_eq_true, if_true, if_false] at h
  · exact heq (hpn.trans hqn.symm) h
  · exact (hother hpsign hpn h.symm).elim
  · exact (hother hqsign hqn h).elim
  · exact heq (hpn.trans hqn.symm) (List.cons.inj h).2

end SpanParts

end EntityStore
