import EntityStore.Proofs.Text.Numbers
import Mathlib.Algebra.Field.Rat
import Mathlib.Data.Rat.Cast.Defs
import Mathlib.Tactic.FieldSimp
import Mathlib.Tactic.NormNum

/-!
# Literals say their values

Each literal is read by itself, whatever follows it in a statement.  The literal of a number is a numeral, and the
number that it denotes (`numeralValue`) is the number itself: nothing is rounded and no sign or zero is lost
(`Value.numeralValue_of_token?`).  The literal of any other value is a string that ends at its own last quote, and
what stands in it is the text of the value (`Token.readString?_quote`).  `Value.literal_denotes` puts both together.
-/

namespace EntityStore

/-! ### The number of a numeral -/

/-- The number that digits denote, those after the point counting by their places. -/
def unsignedValue (t : Text) : ℚ :=
  let whole := t.takeWhile Char.isDigit
  let fraction := (t.dropWhile Char.isDigit).tail
  Nat.ofDigitChars 10 whole 0 + Nat.ofDigitChars 10 fraction 0 / 10 ^ fraction.length

/-- The number that a numeral denotes. -/
def numeralValue : Text → ℚ
  | '-' :: t => -unsignedValue t
  | t => unsignedValue t

theorem unsignedValue_digits {t : Text} (h : ∀ c ∈ t, c.isDigit = true) :
    unsignedValue t = Nat.ofDigitChars 10 t 0 := by
  unfold unsignedValue
  rw [List.takeWhile_eq_self_iff.mpr h, List.dropWhile_eq_nil_iff.mpr h]
  simp

/-- The digits on both sides of a point are the digits of one number, which is then divided. -/
theorem unsignedValue_point {whole : Text} (h : ∀ c ∈ whole, c.isDigit = true) (fraction : Text) :
    unsignedValue (whole ++ '.' :: fraction) =
      Nat.ofDigitChars 10 (whole ++ fraction) 0 / 10 ^ fraction.length := by
  have hpoint : ¬('.' : Char).isDigit = true := by decide
  have hvalue : Nat.ofDigitChars 10 (whole ++ fraction) 0 =
      10 ^ fraction.length * Nat.ofDigitChars 10 whole 0 + Nat.ofDigitChars 10 fraction 0 := by
    rw [Nat.ofDigitChars_append, Nat.ofDigitChars_eq_ofDigitChars_zero]
  unfold unsignedValue
  rw [List.takeWhile_append_of_pos h, List.dropWhile_append_of_pos h, List.takeWhile_cons_of_neg hpoint,
    List.dropWhile_cons_of_neg hpoint, List.append_nil, List.tail_cons, hvalue]
  push_cast
  field_simp

/-- A magnitude is divided by the power of ten that its scale says. -/
theorem Decimal.unsignedValue_magnitudeText (magnitude scale : Nat) :
    unsignedValue (magnitudeText magnitude scale) = magnitude / 10 ^ scale := by
  have hvalue := Text.ofDigitChars_ofNatPadded (scale + 1) magnitude
  have hlength := Text.le_length_ofNatPadded (scale + 1) magnitude
  have hdigits : ∀ c ∈ Text.ofNatPadded (scale + 1) magnitude, c.isDigit = true :=
    fun _ => Text.isDigit_of_mem_ofNatPadded
  unfold magnitudeText
  generalize Text.ofNatPadded (scale + 1) magnitude = digits at hvalue hlength hdigits ⊢
  have hwhole : ∀ c ∈ digits.take (digits.length - scale), c.isDigit = true :=
    fun c hc => hdigits c (List.mem_of_mem_take hc)
  dsimp only
  split
  · next hzero =>
    rw [unsignedValue_digits hwhole, hzero, Nat.sub_zero, List.take_length, hvalue, pow_zero, div_one]
  · have hplaces : (digits.drop (digits.length - scale)).length = scale := by
      rw [List.length_drop]
      omega
    rw [unsignedValue_point hwhole, List.take_append_drop, hvalue, hplaces]

private theorem numeralValue_of_isUnsignedNumeral {t : Text} (h : isUnsignedNumeral t = true) :
    numeralValue t = unsignedValue t := by
  unfold numeralValue
  split
  · next t => exact absurd h (by simp [isUnsignedNumeral])
  · rfl

theorem numeralValue_ofNat (n : Nat) : numeralValue (Text.ofNat n) = n := by
  rw [numeralValue_of_isUnsignedNumeral (isUnsignedNumeral_ofNat n),
    unsignedValue_digits fun _ => Text.isDigit_of_mem_ofNat, Text.ofNat,
    Nat.ofDigitChars_toDigits (by decide) (by decide)]

theorem numeralValue_ofInt (i : Int) : numeralValue (Text.ofInt i) = i := by
  cases i with
  | ofNat n => exact_mod_cast numeralValue_ofNat n
  | negSucc n =>
    have hvalue : unsignedValue (Text.ofNat (n + 1)) = (n + 1 : Nat) := by
      rw [← numeralValue_of_isUnsignedNumeral (isUnsignedNumeral_ofNat _), numeralValue_ofNat]
    rw [Text.ofInt, numeralValue, hvalue, Int.cast_negSucc]

theorem Decimal.numeralValue_toText (d : Decimal) : numeralValue d.toText = d.mantissa / 10 ^ d.scale := by
  have hvalue := unsignedValue_magnitudeText d.mantissa.natAbs d.scale
  rw [← Int.cast_natCast] at hvalue
  unfold toText
  split
  · next hnegative =>
    have hmantissa : (d.mantissa.natAbs : Int) = -d.mantissa := by omega
    rw [numeralValue, hvalue, hmantissa, Int.cast_neg, neg_div, neg_neg]
  · next hnegative =>
    have hmantissa : (d.mantissa.natAbs : Int) = d.mantissa := by omega
    rw [numeralValue_of_isUnsignedNumeral (isUnsignedNumeral_magnitudeText _ _), hvalue, hmantissa]

namespace Value

/-- Whether a value stands in a statement without quotes: truth values and finite numbers do. -/
def isBare : Value → Bool
  | .bool _ | .int _ | .uint _ | .decimal _ => true
  | .double d => d.isFinite
  | _ => false

/-- The number that a truth value, a whole number or a decimal is. -/
def number? : Value → Option ℚ
  | .bool b => some (if b then 1 else 0)
  | .int i => some i.toInt
  | .uint u => some u.toNat
  | .decimal d => some (d.mantissa / 10 ^ d.scale)
  | _ => none

theorem isBare_of_token? {v : Value} {l : Literal} (h : v.token? = some l) :
    v.isBare = true ↔ ∃ n, l = .number n := by
  cases v with
  | double d =>
    simp only [token?, Option.dite_none_right_eq_some] at h
    obtain ⟨hfinite, h⟩ := h
    simp [isBare, hfinite, ← Option.some.inj h]
  | null => simp [token?, toText?] at h
  | bytes bs => simp [token?, toText?] at h
  | list items => simp [token?, toText?] at h
  | _ =>
    obtain rfl := Option.some.inj h
    simp [isBare]

/-- A numeral denotes the number that it was written for. -/
theorem numeralValue_of_token? {v : Value} {l : Literal} (h : v.token? = some l) {q : ℚ} (hq : v.number? = some q) :
    numeralValue l.text = q := by
  cases v with
  | bool b =>
    obtain rfl := Option.some.inj h
    obtain rfl := Option.some.inj hq
    cases b with
    | false => exact_mod_cast numeralValue_ofNat 0
    | true => exact_mod_cast numeralValue_ofNat 1
  | int i =>
    obtain rfl := Option.some.inj h
    exact (numeralValue_ofInt i.toInt).trans (Option.some.inj hq)
  | uint u =>
    obtain rfl := Option.some.inj h
    exact (numeralValue_ofNat u.toNat).trans (Option.some.inj hq)
  | decimal d =>
    obtain rfl := Option.some.inj h
    exact d.numeralValue_toText.trans (Option.some.inj hq)
  | _ => simp [number?] at hq

end Value

/-! ### The text of a string -/

/-- Reads a string that a text starts with; the second part is what follows it. -/
def Token.readString? : Text → Option (Text × Text)
  | '\'' :: rest => Text.readUpTo? '\'' rest
  | _ => none

/-- A quoted text is read to its own last quote, and what is read is the text. -/
theorem Token.readString?_quote (t : Text) {after : Text} (h : after.head? ≠ some '\'') :
    readString? (t.quote ++ after) = some (t, after) := by
  have hquote : t.quote ++ after = '\'' :: (t.doubled '\'' ++ '\'' :: after) := by
    simp [Text.quote, Text.doubleQuotes_eq]
  rw [hquote]
  exact Text.readUpTo?_doubled h t

/-- Without its outer quotes and with two quotes replaced by one, a quoted text is the text. -/
theorem Text.replaceAll_dropQuotes_quote (t : Text) : replaceAll "''".toList "'".toList t.quote.dropQuotes = t := by
  rw [replaceAll_quotes, dropQuotes_quote, doubleQuotes_eq, undoubleQuotes_doubled]

/-- A literal says its value wherever it stands.  Truth values and finite numbers are numerals, and these denote the
number exactly unless it is a double.  All other values are strings: reading one ends where the literal ends, if no
quote follows, and finds the text of the value, as does taking the quotes away. -/
theorem Value.literal_denotes {v : Value} {s : Text} (h : v.literal = .ok s) :
    (v.isBare = true ∧ isNumeral s = true ∧ ∀ q, v.number? = some q → numeralValue s = q) ∨
    (v.isBare = false ∧ ∃ content, v.toText? = some content ∧
      (∀ after : Text, after.head? ≠ some '\'' → Token.readString? (s ++ after) = some (content, after)) ∧
      Text.replaceAll "''".toList "'".toList s.dropQuotes = content) := by
  obtain ⟨l, hl, rfl⟩ := literal_eq_ok_iff.mp h
  have hbare := isBare_of_token? hl
  cases l with
  | number n => exact .inl ⟨hbare.mpr ⟨n, rfl⟩, n.isNumeral_text, fun q hq => numeralValue_of_token? hl hq⟩
  | string t =>
    have hquoted : v.isBare = false := by
      rw [Bool.eq_false_iff]
      intro hnumber
      obtain ⟨n, hn⟩ := hbare.mp hnumber
      cases hn
    exact .inr ⟨hquoted, t, toText?_of_token? hl, fun after hafter => Token.readString?_quote t hafter,
      Text.replaceAll_dropQuotes_quote t⟩

/-- A text that begins and ends with quotes, and a decimal that ends in a zero. -/
theorem Value.literal_denotes_quotes :
    (Value.string "''a'".toList).literal = .ok "'''''a'''".toList ∧
    Token.readString? ("'''''a'''".toList ++ ", 1)".toList) = some ("''a'".toList, ", 1)".toList) ∧
    Text.replaceAll "''".toList "'".toList (Text.dropQuotes "'''''a'''".toList) = "''a'".toList ∧
    isNumeral "-12.50".toList = true ∧ numeralValue "-12.50".toList = -25 / 2 := by
  have hstring : (Value.string "''a'".toList).literal = .ok "'''''a'''".toList := rfl
  have hdecimal : (Value.decimal ⟨-1250, 2, by decide, by decide⟩).literal = .ok "-12.50".toList := rfl
  obtain ⟨hbare, -⟩ | ⟨-, content, hcontent, hread, hreplace⟩ := Value.literal_denotes hstring
  · exact absurd hbare (by decide)
  · obtain rfl := Option.some.inj hcontent
    obtain ⟨-, hnumeral, hvalue⟩ | ⟨hbare, -⟩ := Value.literal_denotes hdecimal
    · refine ⟨hstring, hread _ (by decide), hreplace, hnumeral, ?_⟩
      rw [hvalue _ rfl]
      norm_num
    · exact absurd hbare (by decide)

end EntityStore
