import EntityStore.Proofs.Sql.LiteralReading
import EntityStore.Value.Decode

/-!
# Whole numbers are decoded exactly

A value of any kind may denote a whole number.  Decoding takes the number through 128 bits, where doubles are cut to
the nearest number and long digits are no number at all.  Strictly between the bounds of 128 bits nothing of this
happens: there the number that stands for a value is the one that it denotes (`Value.integer?_eq_some_iff`).  As the
ranges of all types lie between these bounds, a value decodes to a whole-number type exactly if it denotes a number in
the range of the type, and to this number (`ScalarType.decode_wholeNumber`).
-/

namespace EntityStore

/-! ### The numbers that values denote -/

/-- The number that a finite double is. -/
def Double.value (d : Double) : ℚ :=
  (if d.isNegative then -1 else 1) * d.significand * 2 ^ d.exponent

/-- The whole number that a value denotes. -/
inductive Value.Denotes : Value → Int → Prop where
  /-- A truth value, a whole number or a decimal is the number. -/
  | number {v : Value} {n : Int} (h : v.number? = some (n : ℚ)) : Denotes v n
  /-- A finite double is the number. -/
  | double {d : Double} {n : Int} (hfinite : d.isFinite = true) (h : d.value = n) : Denotes (.double d) n
  /-- A text says the number, white space at its ends aside. -/
  | text {t : Text} {n : Int} (h : t.trim.SaysInt n) : Denotes (.string t) n

private theorem mod_eq_zero_and_div_eq_iff {m k : Nat} (hk : 0 < k) {n : Int} :
    (m % k = 0 ∧ ((m / k : Nat) : Int) = n) ↔ (m : Int) = n * k := by
  constructor
  · rintro ⟨hmod, rfl⟩
    exact_mod_cast (Nat.div_mul_cancel (Nat.dvd_of_mod_eq_zero hmod)).symm
  · intro h
    have hn : 0 ≤ n := by
      by_contra hneg
      have := Int.mul_neg_of_neg_of_pos (Int.not_le.mp hneg) (Int.natCast_pos.mpr hk)
      omega
    lift n to ℕ using hn
    obtain rfl : m = n * k := by exact_mod_cast h
    exact ⟨Nat.mul_mod_left n k, by rw [Nat.mul_div_cancel n hk]⟩

theorem Decimal.toInt?_eq_some_iff {d : Decimal} {n : Int} :
    d.toInt? = some n ↔ (d.mantissa : ℚ) / 10 ^ d.scale = n := by
  have hpos : (0 : Int) < Nat.pow 10 d.scale := by exact_mod_cast Nat.pow_pos (by decide)
  have hunit : ((Nat.pow 10 d.scale : Nat) : ℚ) = 10 ^ d.scale := by
    rw [Nat.pow_eq, Nat.cast_pow, Nat.cast_ofNat]
  rw [div_eq_iff (by positivity), ← hunit]
  simp only [toInt?, Option.ite_none_right_eq_some, Option.some.injEq]
  constructor
  · rintro ⟨hmod, rfl⟩
    exact_mod_cast (Int.ediv_mul_cancel_of_emod_eq_zero hmod).symm
  · intro h
    obtain hmantissa : d.mantissa = n * (Nat.pow 10 d.scale : Nat) := by exact_mod_cast h
    rw [hmantissa]
    exact ⟨Int.mul_emod_left .., Int.mul_ediv_cancel n (Int.ne_of_gt hpos)⟩

/-- A double is a whole number exactly if its power of two is one, or divides its significand. -/
theorem Double.toInt?_eq_some_iff {d : Double} {n : Int} :
    d.toInt? = some n ↔ d.isFinite = true ∧ d.value = n := by
  unfold toInt? value
  by_cases hfinite : d.isFinite = true
  case neg => simp [hfinite]
  rw [if_pos hfinite, and_iff_right hfinite]
  have hunit (e : Nat) : ((Nat.pow 2 e : Nat) : ℚ) = 2 ^ e := by
    rw [Nat.pow_eq, Nat.cast_pow, Nat.cast_ofNat]
  dsimp only
  split
  · next e he =>
    rw [he, Int.ofNat_eq_natCast, zpow_natCast, ← hunit, Option.some.injEq]
    cases d.isNegative with
    | false =>
      simp only [Bool.false_eq_true, if_false, one_mul]
      exact_mod_cast Iff.rfl
    | true =>
      simp only [if_true, neg_mul, one_mul]
      exact_mod_cast Iff.rfl
  · next e he =>
    have hpos : 0 < Nat.pow 2 (e + 1) := Nat.pow_pos (by decide)
    rw [he, zpow_negSucc, ← div_eq_mul_inv, div_eq_iff (by positivity), ← hunit]
    simp only [Option.ite_none_right_eq_some, Option.some.injEq]
    cases d.isNegative with
    | false =>
      simp only [Bool.false_eq_true, if_false, one_mul]
      rw [mod_eq_zero_and_div_eq_iff hpos]
      exact_mod_cast Iff.rfl
    | true =>
      simp only [if_true, neg_one_mul, neg_eq_iff_eq_neg]
      rw [mod_eq_zero_and_div_eq_iff hpos, Int.neg_mul]
      exact_mod_cast Iff.rfl

namespace Value

variable {v : Value} {m n : Int}

/-- A truth value, a whole number or a decimal denotes nothing but the number that it is. -/
private theorem denotes_iff_of_number? {q : ℚ} (hq : v.number? = some q) : v.Denotes n ↔ q = n := by
  constructor
  · intro h
    cases h with
    | number h => exact Option.some.inj (hq.symm.trans h)
    | double => simp [number?] at hq
    | text => simp [number?] at hq
  · rintro rfl
    exact .number hq

/-- A value denotes one number at most. -/
theorem Denotes.unique (hm : v.Denotes m) (hn : v.Denotes n) : m = n := by
  cases hm with
  | number hm => exact_mod_cast (denotes_iff_of_number? hm).mp hn
  | double _ hm =>
    cases hn with
    | number hn => simp [number?] at hn
    | double _ hn => exact_mod_cast hm.symm.trans hn
  | text hm =>
    cases hn with
    | number hn => simp [number?] at hn
    | text hn =>
      have hread := Text.readInt?_eq_some_iff.mpr hm
      rw [Text.readInt?_eq_some_iff.mpr hn] at hread
      exact (Option.some.inj hread).symm

/-! ### Through 128 bits -/

section

variable (hleast : leastWide < n) (hgreatest : n < greatestWide)

include hleast hgreatest

/-- Strictly between the bounds, no other number is cut to a number. -/
private theorem saturated_eq_iff {i : Int} : saturated i = n ↔ i = n := by
  unfold saturated
  omega

private theorem readWide?_eq_some_iff {t : Text} : readWide? t = some n ↔ t.SaysInt n := by
  simp only [readWide?, Option.filter_eq_some_iff, Text.readInt?_eq_some_iff, Bool.and_eq_true, decide_eq_true_eq]
  exact and_iff_left ⟨Int.le_of_lt hleast, Int.le_of_lt hgreatest⟩

/-- Strictly between the bounds of 128 bits, the number that stands for a value is the number that it denotes. -/
theorem integer?_eq_some_iff : v.integer? = some n ↔ v.Denotes n := by
  cases v with
  | double d =>
    simp only [integer?, Option.map_eq_some_iff, saturated_eq_iff hleast hgreatest, exists_eq_right,
      Double.toInt?_eq_some_iff]
    constructor
    · exact fun ⟨hfinite, h⟩ => .double hfinite h
    · intro h
      cases h with
      | number h => simp [number?] at h
      | double hfinite h => exact ⟨hfinite, h⟩
  | string t =>
    rw [integer?, readWide?_eq_some_iff hleast hgreatest]
    constructor
    · exact .text
    · intro h
      cases h with
      | number h => simp [number?] at h
      | text h => exact h
  | decimal d => rw [integer?, Decimal.toInt?_eq_some_iff, denotes_iff_of_number? rfl]
  | bool b =>
    rw [integer?, denotes_iff_of_number? rfl, Option.some.injEq]
    cases b <;> norm_cast
  | int i =>
    rw [integer?, denotes_iff_of_number? rfl, Option.some.injEq]
    norm_cast
  | uint u =>
    rw [integer?, denotes_iff_of_number? rfl, Option.some.injEq]
    norm_cast
  | _ =>
    refine iff_of_false (by simp [integer?]) fun h => ?_
    cases h with
    | number h => simp [number?] at h

end

end Value

namespace ScalarType

/-! ### Whole-number types -/

/-- The types whose values are whole numbers. -/
def wholeTypes : List ScalarType :=
  [byte, int16, uint16, int32, uint32, int64, uint64]

/-- The numbers of a whole-number type: as many as its bits tell apart, half of them negative if it has a sign. -/
def InRange (type : ScalarType) (n : Int) : Prop :=
  match type with
  | byte => 0 ≤ n ∧ n < 2 ^ 8
  | int16 => -2 ^ 15 ≤ n ∧ n < 2 ^ 15
  | uint16 => 0 ≤ n ∧ n < 2 ^ 16
  | int32 => -2 ^ 31 ≤ n ∧ n < 2 ^ 31
  | uint32 => 0 ≤ n ∧ n < 2 ^ 32
  | int64 => -2 ^ 63 ≤ n ∧ n < 2 ^ 63
  | uint64 => 0 ≤ n ∧ n < 2 ^ 64
  | _ => False

/-- A value is the given number as a value of a whole-number type: without sign for the unsigned type of 64 bits, and
with a sign for the others. -/
def Represents (type : ScalarType) (n : Int) : Value → Prop
  | .uint u => type = uint64 ∧ (u.toNat : Int) = n
  | .int i => type ≠ uint64 ∧ i.toInt = n
  | _ => False

variable {type : ScalarType} {low high n : Int}

/-- The bounds of a whole-number type are the least and the greatest of its numbers. -/
private theorem exists_range?_eq (h : type ∈ wholeTypes) :
    ∃ low high, type.range? = some (low, high) ∧ ∀ n, type.InRange n ↔ low ≤ n ∧ n ≤ high := by
  simp only [wholeTypes, List.mem_cons, List.not_mem_nil, or_false] at h
  rcases h with rfl | rfl | rfl | rfl | rfl | rfl | rfl <;>
    exact ⟨_, _, rfl, fun n => by simp only [InRange]; omega⟩

/-- The ranges of whole-number types are those of 64 bits, with a sign unless the type is the one without. -/
private theorem range_le (h : type.range? = some (low, high)) :
    if type = uint64 then low = 0 ∧ high < 18446744073709551616
    else -9223372036854775808 ≤ low ∧ high < 9223372036854775808 := by
  cases type <;> simp [range?] at h <;> obtain ⟨rfl, rfl⟩ := h <;> decide

private theorem toNat_ofNat_toNat (h : 0 ≤ n) (hlt : n < 18446744073709551616) :
    ((UInt64.ofNat n.toNat).toNat : Int) = n := by
  rw [UInt64.toNat_ofNat_of_lt' (by simp only [UInt64.size]; omega)]
  omega

section

variable (hrange : type.range? = some (low, high)) (hlow : low ≤ n) (hhigh : n ≤ high)

include hrange hlow hhigh

/-- The numbers of all types lie strictly between the bounds of 128 bits. -/
theorem isWide_of_range? : Value.leastWide < n ∧ n < Value.greatestWide := by
  have hbounds := range_le hrange
  unfold Value.leastWide Value.greatestWide
  split at hbounds <;> omega

/-- The value of a whole-number type for a number in its range is the number. -/
theorem represents_ofInteger : type.Represents n (type.ofInteger n) := by
  have hbounds := range_le hrange
  unfold ofInteger
  split
  · next htype =>
    rw [if_pos htype] at hbounds
    exact ⟨htype, toNat_ofNat_toNat (by omega) (by omega)⟩
  · next htype =>
    rw [if_neg htype] at hbounds
    exact ⟨htype, Int64.toInt_ofInt_of_le (by omega) (by omega)⟩

end

/-- A number has one value of a type. -/
theorem Represents.unique {v w : Value} (hv : type.Represents n v) (hw : type.Represents n w) : v = w := by
  cases v with
  | uint u =>
    cases w with
    | uint u' => exact congrArg Value.uint (UInt64.toNat_inj.mp (by exact_mod_cast hv.2.trans hw.2.symm))
    | int i => exact absurd hv.1 hw.1
    | _ => exact hw.elim
  | int i =>
    cases w with
    | int i' => exact congrArg Value.int (Int64.toInt_inj.mp (hv.2.trans hw.2.symm))
    | uint u => exact absurd hw.1 hv.1
    | _ => exact hw.elim
  | _ => exact hv.elim

/-- The value of a number denotes the number. -/
theorem Represents.denotes {v : Value} (h : type.Represents n v) : v.Denotes n := by
  cases v with
  | uint u => exact .number (congrArg some (by exact_mod_cast h.2))
  | int i => exact .number (congrArg some (by exact_mod_cast h.2))
  | _ => exact h.elim

/-! ### Decoding -/

section

variable (hrange : type.range? = some (low, high))

include hrange

private theorem decode_eq (v : Value) : type.decode v = orFault (.mismatch type v.kind) (type.integer? v) := by
  cases type with
  | byte | int16 | uint16 | int32 | uint32 | int64 | uint64 => rfl
  | _ => simp [range?] at hrange

/-- What decodes to a whole-number type, and to what. -/
theorem decode_eq_ok_iff {v w : Value} :
    type.decode v = .ok w ↔ ∃ n, v.Denotes n ∧ (low ≤ n ∧ n ≤ high) ∧ w = type.ofInteger n := by
  have hinteger {n : Int} (h : low ≤ n ∧ n ≤ high) : v.integer? = some n ↔ v.Denotes n :=
    have hwide := isWide_of_range? hrange h.1 h.2
    Value.integer?_eq_some_iff hwide.1 hwide.2
  have hfault (w? : Option Value) : orFault (.mismatch type v.kind) w? = .ok w ↔ w? = some w := by
    cases w? <;> simp [orFault]
  rw [decode_eq hrange, hfault, integer?, hrange]
  constructor
  · intro h
    split at h
    · next n heq hn =>
      obtain ⟨rfl, rfl⟩ := Prod.mk.inj (Option.some.inj heq)
      obtain ⟨hbounds, hw⟩ := Option.ite_none_right_eq_some.mp h
      exact ⟨n, (hinteger hbounds).mp hn, hbounds, (Option.some.inj hw).symm⟩
    · exact nomatch h
  · rintro ⟨n, hn, hbounds, rfl⟩
    rw [(hinteger hbounds).mpr hn]
    exact if_pos hbounds

/-- Nothing else goes wrong in decoding than that the value does not fit the type. -/
theorem eq_mismatch_of_decode {v : Value} {fault : DecodeFault} (h : type.decode v = .error fault) :
    fault = .mismatch type v.kind := by
  rw [decode_eq hrange] at h
  cases hvalue : type.integer? v with
  | none =>
    rw [hvalue] at h
    exact (Except.error.inj h).symm
  | some w =>
    rw [hvalue] at h
    exact nomatch h

end

/-- A value decodes to a whole-number type exactly if it denotes a number in the range of the type, and then to the
value of this number; it denotes no other.  Every other value is refused. -/
theorem decode_wholeNumber (h : type ∈ wholeTypes) (v : Value) :
    (∀ w, type.decode v = .ok w ↔ ∃ n, v.Denotes n ∧ type.InRange n ∧ type.Represents n w) ∧
    ((∃ w, type.decode v = .ok w) ↔ ∃ n, v.Denotes n ∧ type.InRange n) ∧
    (∀ fault, type.decode v = .error fault → fault = .mismatch type v.kind) ∧
    ∀ m n, v.Denotes m → v.Denotes n → m = n := by
  obtain ⟨low, high, hrange, hinRange⟩ := exists_range?_eq h
  have hrepresents {n : Int} (hn : type.InRange n) : type.Represents n (type.ofInteger n) :=
    represents_ofInteger hrange ((hinRange n).mp hn).1 ((hinRange n).mp hn).2
  refine ⟨fun w => ?_, ?_, fun fault => eq_mismatch_of_decode hrange, fun m n => Value.Denotes.unique⟩
  · simp only [decode_eq_ok_iff hrange, ← hinRange]
    refine exists_congr fun n => and_congr_right fun _ => and_congr_right fun hn => ?_
    exact ⟨fun hw => hw ▸ hrepresents hn, fun hw => hw.unique (hrepresents hn)⟩
  · simp only [decode_eq_ok_iff hrange, ← hinRange]
    exact ⟨fun ⟨_, n, hn, hbounds, _⟩ => ⟨n, hn, hbounds⟩, fun ⟨n, hn, hbounds⟩ => ⟨_, n, hn, hbounds, rfl⟩⟩

/-- The greatest number of all types, as digits with a sign and zeros before them, and a double that is not the greatest
number of 128 bits, but is cut to it. -/
theorem decode_wholeNumber_extremes :
    uint64.decode (.string " +0018446744073709551615\n".toList) = .ok (.uint 18446744073709551615) ∧
    (Value.double ⟨0x47e0000000000000⟩).integer? = some Value.greatestWide ∧
    int64.decode (.double ⟨0x47e0000000000000⟩) = .error (.mismatch .int64 "double".toList) := by
  have hdigits : (Value.string " +0018446744073709551615\n".toList).Denotes 18446744073709551615 :=
    .text (Text.readInt?_eq_some_iff.mp (by decide))
  refine ⟨((decode_wholeNumber (by decide) _).1 _).mpr ⟨_, hdigits, ⟨by decide, by decide⟩, rfl, rfl⟩, by decide, ?_⟩
  have hwhole : int64 ∈ wholeTypes := by decide
  obtain ⟨-, hok, hfault, hunique⟩ := decode_wholeNumber hwhole (.double ⟨0x47e0000000000000⟩)
  have hdouble : (Value.double ⟨0x47e0000000000000⟩).Denotes (2 ^ 127) :=
    .double (by decide) (Double.toInt?_eq_some_iff.mp (by decide)).2
  cases hdecode : int64.decode (.double ⟨0x47e0000000000000⟩) with
  | error fault => rw [hfault fault hdecode]; rfl
  | ok w =>
    obtain ⟨n, hn, hrange⟩ := hok.mp ⟨w, hdecode⟩
    obtain rfl := hunique _ _ hn hdouble
    exact absurd hrange.2 (by decide)

end ScalarType

end EntityStore
