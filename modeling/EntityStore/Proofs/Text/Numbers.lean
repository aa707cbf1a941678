import EntityStore.Proofs.Sql.Literal
import EntityStore.Text.Blank
import Mathlib.Algebra.Group.Nat.Defs

/-!
# Written numbers are read again

A number in decimal digits is read as the number that it was written from (`Text.readNat?_ofNat`), also as a whole
number with a sign of its own (`Text.readInt?_ofNat`).  Digits are all that is read, with a sign before them at most
(`Text.readNat?_eq_some_iff`, `Text.readInt?_eq_some_iff`).  Zeros before the digits change nothing
(`Text.ofDigitChars_ofNatPadded`).  Numerals have no white space, so that trimming leaves them as they are
(`Text.trim_of_isNumeral`).
-/

namespace EntityStore

namespace Text

/-- A text without white space is not changed by trimming. -/
theorem trim_of_not_isBlank {t : Text} (h : ∀ c ∈ t, isBlank c = false) : t.trim = t := by
  have hdrop {u : Text} (hu : ∀ c ∈ u, isBlank c = false) : u.dropWhile isBlank = u := by
    cases u with
    | nil => rfl
    | cons c u => exact List.dropWhile_cons_of_neg (by simp [hu c (List.mem_cons_self ..)])
  have hreverse : ∀ c ∈ t.reverse, isBlank c = false := fun c hc => h c (List.mem_reverse.mp hc)
  rw [trim, trimStart, trimEnd, hdrop h, hdrop hreverse, List.reverse_reverse]

private theorem isBlank_of_isNumeralChar {c : Char} (h : isNumeralChar c = true) : isBlank c = false := by
  have hrange : 0x2d ≤ c.toNat ∧ c.toNat ≤ 0x39 := by
    simp only [isNumeralChar, Bool.or_eq_true, beq_iff_eq, Char.isDigit, Bool.and_eq_true, decide_eq_true_eq] at h
    rcases h with (⟨hlow, hhigh⟩ | rfl) | rfl
    · have hlow' := UInt32.le_iff_toNat_le.mp hlow
      have hhigh' := UInt32.le_iff_toNat_le.mp hhigh
      exact ⟨Nat.le_trans (by decide) hlow', hhigh'⟩
    · decide
    · decide
  simp only [isBlank, blankRanges, List.any_cons, List.any_nil, Bool.or_false, Bool.or_eq_false_iff,
    Bool.and_eq_false_iff, decide_eq_false_iff_not]
  omega

theorem isBlank_of_isDigit {c : Char} (h : c.isDigit = true) : isBlank c = false :=
  isBlank_of_isNumeralChar (by simp [isNumeralChar, h])

theorem trim_of_isNumeral {t : Text} (h : isNumeral t = true) : t.trim = t :=
  trim_of_not_isBlank fun c hc => isBlank_of_isNumeralChar (Numeral.isNumeralChar_of_mem ⟨t, h⟩ c hc)

theorem readNat?_ofNat (n : Nat) : readNat? (ofNat n) = some n := by
  have hdigits : (ofNat n).all Char.isDigit = true := List.all_eq_true.mpr fun _ => isDigit_of_mem_ofNat
  rw [readNat?, if_pos ⟨ofNat_ne_nil n, hdigits⟩, ofNat, Nat.ofDigitChars_toDigits (by decide) (by decide)]

theorem ofNat_injective : Function.Injective ofNat := by
  intro m n h
  have hread := readNat?_ofNat m
  rw [h, readNat?_ofNat n] at hread
  exact (Option.some.inj hread).symm

theorem readInt?_ofNat (n : Nat) : readInt? (ofNat n) = some (n : Int) := by
  have hsign {c : Char} {rest : Text} (heq : ofNat n = c :: rest) : c.isDigit = true :=
    isDigit_of_mem_ofNat (heq ▸ List.mem_cons_self ..)
  unfold readInt?
  split
  · next digits heq => exact absurd (hsign heq) (by decide)
  · next digits heq => exact absurd (hsign heq) (by decide)
  · rw [readNat?_ofNat]
    rfl

/-! ### What the readers of numbers accept -/

/-- One decimal digit or more and nothing else. -/
def IsDigits (t : Text) : Prop :=
  t ≠ [] ∧ ∀ c ∈ t, c.isDigit = true

instance (t : Text) : Decidable t.IsDigits :=
  decidable_of_iff (t ≠ [] ∧ t.all Char.isDigit = true) (by rw [IsDigits, List.all_eq_true])

theorem readNat?_eq_some_iff {t : Text} {n : Nat} :
    readNat? t = some n ↔ t.IsDigits ∧ Nat.ofDigitChars 10 t 0 = n := by
  simp only [readNat?, List.all_eq_true, Option.ite_none_right_eq_some, Option.some.injEq]
  rfl

/-- The whole number that digits say, with a sign before them or without one. -/
inductive SaysInt : Text → Int → Prop where
  | unsigned {t : Text} (h : t.IsDigits) : SaysInt t (Nat.ofDigitChars 10 t 0)
  | positive {t : Text} (h : t.IsDigits) : SaysInt ('+' :: t) (Nat.ofDigitChars 10 t 0)
  | negative {t : Text} (h : t.IsDigits) : SaysInt ('-' :: t) (-(Nat.ofDigitChars 10 t 0 : Int))

private theorem IsDigits.ne_sign {c : Char} {t : Text} (h : IsDigits (c :: t)) : c ≠ '-' ∧ c ≠ '+' := by
  have hc := h.2 c (List.mem_cons_self ..)
  constructor <;> rintro rfl <;> exact absurd hc (by decide)

theorem readInt?_eq_some_iff {t : Text} {i : Int} : readInt? t = some i ↔ t.SaysInt i := by
  constructor
  · intro h
    unfold readInt? at h
    split at h
    all_goals
      simp only [Option.map_eq_some_iff, Option.bind_eq_bind, Option.bind_eq_some_iff, readNat?_eq_some_iff,
        Option.pure_def, Option.some.injEq] at h
    · obtain ⟨_, ⟨_, ⟨hdigits, rfl⟩, rfl⟩, rfl⟩ := h
      exact .negative hdigits
    · obtain ⟨_, ⟨_, ⟨hdigits, rfl⟩, rfl⟩, rfl⟩ := h
      exact .positive hdigits
    · obtain ⟨_, ⟨_, ⟨hdigits, rfl⟩, rfl⟩, rfl⟩ := h
      exact .unsigned hdigits
  · intro h
    cases h with
    | positive h => rw [readInt?, readNat?_eq_some_iff.mpr ⟨h, rfl⟩]; rfl
    | negative h => rw [readInt?, readNat?_eq_some_iff.mpr ⟨h, rfl⟩]; rfl
    | unsigned h =>
      unfold readInt?
      split
      · exact absurd rfl h.ne_sign.1
      · exact absurd rfl h.ne_sign.2
      · rw [readNat?_eq_some_iff.mpr ⟨h, rfl⟩]
        rfl

/-- A number has digits and perhaps a sign, so that it has no mark of any other kind. -/
theorem SaysInt.notMem {t : Text} {i : Int} (h : t.SaysInt i) {c : Char} (hdigit : c.isDigit = false)
    (hsigns : c ∉ ['-', '+']) : c ∉ t := by
  have hdigits {ds : Text} (hds : ds.IsDigits) : c ∉ ds := fun hc => by simp [hds.2 c hc] at hdigit
  simp only [List.mem_cons, List.not_mem_nil, or_false, not_or] at hsigns
  cases h with
  | unsigned h => exact hdigits h
  | positive h => exact List.not_mem_cons_of_ne_of_not_mem hsigns.2 (hdigits h)
  | negative h => exact List.not_mem_cons_of_ne_of_not_mem hsigns.1 (hdigits h)

/-! ### Padded numbers -/

theorem ofDigitChars_ofNatPadded (width n : Nat) : Nat.ofDigitChars 10 (ofNatPadded width n) 0 = n := by
  have hzeros (k : Nat) : Nat.ofDigitChars 10 (List.replicate k '0') 0 = 0 := by
    induction k with
    | zero => rfl
    | succ k ih =>
      rw [List.replicate_succ, Nat.ofDigitChars_cons]
      exact ih
  rw [ofNatPadded, List.leftpad, Nat.ofDigitChars_append, hzeros, ofNat,
    Nat.ofDigitChars_toDigits (by decide) (by decide)]

/-- Padding fills up exactly if the number does not need more digits. -/
theorem length_ofNatPadded {width n : Nat} (hwidth : 0 < width) (h : n < 10 ^ width) :
    (ofNatPadded width n).length = width := by
  have hlength : (ofNat n).length ≤ width := (Nat.length_toDigits_le_iff (by decide) hwidth).mpr h
  rw [ofNatPadded, List.length_leftpad]
  omega

theorem ofNatPadded_ne_nil {width : Nat} (hwidth : 0 < width) (n : Nat) : ofNatPadded width n ≠ [] := by
  have hlength := le_length_ofNatPadded width n
  exact List.ne_nil_of_length_pos (by omega)

theorem exists_ofNatPadded_eq_cons {width : Nat} (hwidth : 0 < width) (n : Nat) :
    ∃ c ds, ofNatPadded width n = c :: ds ∧ c.isDigit = true := by
  obtain ⟨c, ds, hcons⟩ := List.exists_cons_of_ne_nil (ofNatPadded_ne_nil hwidth n)
  exact ⟨c, ds, hcons, isDigit_of_mem_ofNatPadded (hcons ▸ List.mem_cons_self ..)⟩

theorem isDigits_ofNat (n : Nat) : (ofNat n).IsDigits :=
  ⟨ofNat_ne_nil n, fun _ => isDigit_of_mem_ofNat⟩

theorem isDigits_ofNatPadded {width : Nat} (hwidth : 0 < width) (n : Nat) : (ofNatPadded width n).IsDigits :=
  ⟨ofNatPadded_ne_nil hwidth n, fun _ => isDigit_of_mem_ofNatPadded⟩

theorem saysInt_ofNatPadded {width : Nat} (hwidth : 0 < width) (n : Nat) : (ofNatPadded width n).SaysInt n := by
  have h := SaysInt.unsigned (isDigits_ofNatPadded hwidth n)
  rwa [ofDigitChars_ofNatPadded] at h

end Text

end EntityStore
