import EntityStore.Proofs.Outcome
import EntityStore.Proofs.Sql.Token
import EntityStore.Query.Literal
import Mathlib.Data.List.TakeWhile

/-!
# Literals as tokens

What a value stands for in a statement: a string token or a numeral.  A numeral is an optional minus sign, digits,
and perhaps a point with digits after it; there is never an exponent.  `Value.literal_eq_ok_iff` says that the literal
of a value is the spelling of its token, and that the values without a token are those without a literal.
-/

namespace EntityStore

/-- Whether a text is digits, or digits with a point among them. -/
def isUnsignedNumeral (t : Text) : Bool :=
  let whole := t.takeWhile Char.isDigit
  match t.dropWhile Char.isDigit with
  | [] => !whole.isEmpty
  | c :: fraction => c == '.' && !whole.isEmpty && !fraction.isEmpty && fraction.all Char.isDigit

/-- Whether a text is a numeral. -/
def isNumeral : Text → Bool
  | '-' :: t => isUnsignedNumeral t
  | t => isUnsignedNumeral t

/-- A numeral. -/
structure Numeral where
  text : Text
  isNumeral_text : isNumeral text = true
  deriving DecidableEq

/-- The characters of numerals. -/
def isNumeralChar (c : Char) : Bool :=
  c.isDigit || c == '.' || c == '-'

theorem isDigit_or_point_of_isUnsignedNumeral {t : Text} (h : isUnsignedNumeral t = true) {c : Char} (hc : c ∈ t) :
    c.isDigit = true ∨ c = '.' := by
  rw [← List.takeWhile_append_dropWhile (p := Char.isDigit) (l := t), List.mem_append] at hc
  unfold isUnsignedNumeral at h
  rcases hc with hc | hc
  · have hdigits := List.all_takeWhile (p := Char.isDigit) (l := t)
    exact .inl (List.all_eq_true.mp hdigits c hc)
  · split at h
    · next heq => simp [heq] at hc
    · next d fraction heq =>
      simp only [Bool.and_eq_true, beq_iff_eq, List.all_eq_true] at h
      rw [heq, List.mem_cons] at hc
      rcases hc with rfl | hc
      · exact .inr h.1.1.1
      · exact .inl (h.2 c hc)

private theorem isNumeralChar_of_isUnsignedNumeral {t : Text} (h : isUnsignedNumeral t = true) :
    ∀ c ∈ t, isNumeralChar c = true := by
  intro c hc
  rcases isDigit_or_point_of_isUnsignedNumeral h hc with hdigit | rfl
  · simp [isNumeralChar, hdigit]
  · decide

theorem Numeral.isNumeralChar_of_mem (n : Numeral) : ∀ c ∈ n.text, isNumeralChar c = true := by
  have h := n.isNumeral_text
  unfold isNumeral at h
  split at h
  · next t heq =>
    intro c hc
    rw [heq, List.mem_cons] at hc
    rcases hc with rfl | hc
    · decide
    · exact isNumeralChar_of_isUnsignedNumeral h c hc
  · exact isNumeralChar_of_isUnsignedNumeral h

private theorem isUnsignedNumeral_digits {t : Text} (hne : t ≠ []) (h : ∀ c ∈ t, c.isDigit = true) :
    isUnsignedNumeral t = true := by
  unfold isUnsignedNumeral
  rw [List.takeWhile_eq_self_iff.mpr h, List.dropWhile_eq_nil_iff.mpr h]
  simpa using hne

private theorem isUnsignedNumeral_point {whole fraction : Text} (hwhole : whole ≠ []) (hfraction : fraction ≠ [])
    (h : ∀ c ∈ whole, c.isDigit = true) (h' : ∀ c ∈ fraction, c.isDigit = true) :
    isUnsignedNumeral (whole ++ '.' :: fraction) = true := by
  unfold isUnsignedNumeral
  rw [List.takeWhile_append_of_pos h, List.dropWhile_append_of_pos h]
  have hpoint : ('.' : Char).isDigit = false := by decide
  simpa [hpoint, hwhole, hfraction] using h'

private theorem isNumeral_of_isUnsignedNumeral {t : Text} (h : isUnsignedNumeral t = true) : isNumeral t = true := by
  unfold isNumeral
  split
  · simp [isUnsignedNumeral] at h
  · exact h

/-! ### The numerals of numbers -/

theorem Text.isDigit_of_mem_ofNat {n : Nat} {c : Char} (h : c ∈ ofNat n) : c.isDigit = true :=
  Nat.isDigit_of_mem_toDigits (by decide) (by decide) h

theorem Text.ofNat_ne_nil (n : Nat) : ofNat n ≠ [] :=
  Nat.toDigits_ne_nil

theorem Text.isDigit_of_mem_ofNatPadded {width n : Nat} {c : Char} (h : c ∈ ofNatPadded width n) :
    c.isDigit = true := by
  rw [ofNatPadded, List.leftpad, List.mem_append] at h
  rcases h with h | h
  · obtain rfl := List.eq_of_mem_replicate h
    decide
  · exact isDigit_of_mem_ofNat h

theorem Text.le_length_ofNatPadded (width n : Nat) : width ≤ (ofNatPadded width n).length := by
  rw [ofNatPadded, List.length_leftpad]
  omega

theorem isUnsignedNumeral_ofNat (n : Nat) : isUnsignedNumeral (Text.ofNat n) = true :=
  isUnsignedNumeral_digits (Text.ofNat_ne_nil n) fun _ => Text.isDigit_of_mem_ofNat

/-- Padded digits with a point before the last of them, of which there are enough. -/
private theorem isUnsignedNumeral_ofNatPadded (places n : Nat) :
    let digits := Text.ofNatPadded (places + 2) n
    isUnsignedNumeral (digits.take (digits.length - (places + 1)) ++
      '.' :: digits.drop (digits.length - (places + 1))) = true := by
  intro digits
  have hlength : places + 2 ≤ digits.length := Text.le_length_ofNatPadded (places + 2) n
  have hdigits : ∀ c ∈ digits, c.isDigit = true := fun c => Text.isDigit_of_mem_ofNatPadded
  apply isUnsignedNumeral_point
  · exact List.ne_nil_of_length_pos (by rw [List.length_take]; omega)
  · exact List.ne_nil_of_length_pos (by rw [List.length_drop]; omega)
  · exact fun c hc => hdigits c (List.mem_of_mem_take hc)
  · exact fun c hc => hdigits c (List.mem_of_mem_drop hc)

theorem isNumeral_ofNat (n : Nat) : isNumeral (Text.ofNat n) = true :=
  isNumeral_of_isUnsignedNumeral (isUnsignedNumeral_ofNat n)

theorem isNumeral_ofInt (i : Int) : isNumeral (Text.ofInt i) = true := by
  cases i with
  | ofNat n => exact isNumeral_ofNat n
  | negSucc n => exact isUnsignedNumeral_ofNat (n + 1)

theorem isUnsignedNumeral_magnitudeText (magnitude scale : Nat) :
    isUnsignedNumeral (Decimal.magnitudeText magnitude scale) = true := by
  unfold Decimal.magnitudeText
  cases scale with
  | zero =>
    have hlength := Text.le_length_ofNatPadded 1 magnitude
    apply isUnsignedNumeral_digits
    · exact List.ne_nil_of_length_pos (by simp; omega)
    · intro c hc
      exact Text.isDigit_of_mem_ofNatPadded (List.mem_of_mem_take hc)
  | succ places => exact isUnsignedNumeral_ofNatPadded places magnitude

theorem Decimal.isNumeral_toText (d : Decimal) : isNumeral d.toText = true := by
  unfold Decimal.toText
  split
  · exact isUnsignedNumeral_magnitudeText _ _
  · exact isNumeral_of_isUnsignedNumeral (isUnsignedNumeral_magnitudeText _ _)

theorem isUnsignedNumeral_positional (n : DecimalDigits) :
    isUnsignedNumeral (Double.positional n) = true := by
  unfold Double.positional
  split
  · next p =>
    apply isUnsignedNumeral_digits
    · simp [Text.ofNat_ne_nil]
    · intro c hc
      rcases List.mem_append.mp hc with hc | hc
      · exact Text.isDigit_of_mem_ofNat hc
      · obtain rfl := List.eq_of_mem_replicate hc
        decide
  · next p _ => exact isUnsignedNumeral_ofNatPadded p n.digits

theorem Double.isNumeral_toText {d : Double} (h : d.isFinite = true) : isNumeral d.toText = true := by
  have hnan : d.isNaN = false := by
    simp only [isFinite, bne_iff_ne] at h
    simp [isNaN, h]
  have hmagnitude : isUnsignedNumeral (if d.significand = 0 then ['0'] else positional d.shortestDigits) = true := by
    split
    · decide
    · exact isUnsignedNumeral_positional _
  simp only [toText, hnan, h, withSign, Bool.not_true, Bool.false_eq_true, if_false]
  split
  · exact hmagnitude
  · exact isNumeral_of_isUnsignedNumeral hmagnitude

/-! ### Tokens of values -/

/-- A literal: a string or a numeral. -/
inductive Literal where
  | string (t : Text)
  | number (n : Numeral)
  deriving DecidableEq

namespace Literal

/-- What a literal says, without quotes. -/
def content : Literal → Text
  | string t => t
  | number n => n.text

/-- The tokens of a literal. -/
def tokens : Literal → List Token
  | string t => [.string t]
  | number n => Token.chars n.text

/-- A literal as it is written. -/
def text : Literal → Text
  | string t => t.quote
  | number n => n.text

theorem spell_tokens (l : Literal) : Token.spell l.tokens = l.text := by
  cases l with
  | string t => simp [tokens, text, Token.text]
  | number n => simp [tokens, text]

theorem separated_tokens (l : Literal) : Token.Separated l.tokens := by
  cases l with
  | string t => exact Token.separated_singleton rfl
  | number n =>
    refine Token.separated_chars (List.all_eq_true.mpr fun c hc => ?_)
    have h := n.isNumeralChar_of_mem c hc
    simp only [Token.isPlain, Bool.and_eq_true, bne_iff_ne]
    refine ⟨⟨?_, ?_⟩, ?_⟩ <;> rintro rfl <;> exact absurd h (by decide)

/-- Between its quotes a literal has its content with quotes doubled; a numeral has no quotes. -/
theorem dropQuotes_text (l : Literal) : l.text.dropQuotes = l.content.doubleQuotes := by
  cases l with
  | string t => exact Text.dropQuotes_quote t
  | number n =>
    have hquote : '\'' ∉ n.text := fun h => absurd (n.isNumeralChar_of_mem _ h) (by decide)
    rw [text, content, Text.doubleQuotes_eq, Text.doubled_of_notMem hquote]
    unfold Text.dropQuotes
    split
    · next rest heq => exact absurd (heq ▸ List.mem_cons_self ..) hquote
    · rfl

/-- Wildcards may be put around the content of a literal before it is quoted or between its quotes afterwards. -/
theorem quote_wildcards (l : Literal) :
    Text.quote ('%' :: l.content ++ ['%']) = "'%".toList ++ l.text.dropQuotes ++ "%'".toList := by
  have hwildcard : Text.doubleQuotes ['%'] = ['%'] := by decide
  rw [← List.singleton_append, Text.quote, Text.doubleQuotes_append, Text.doubleQuotes_append, hwildcard,
    l.dropQuotes_text]
  simp

/-- The tokens of literals with commas between them. -/
def listTokens : List Literal → List Token
  | [] => []
  | [l] => l.tokens
  | l :: m :: rest => l.tokens ++ .char ',' :: .char ' ' :: listTokens (m :: rest)

theorem spell_listTokens (ls : List Literal) :
    Token.spell (listTokens ls) = Text.joinWith ", ".toList (ls.map text) := by
  fun_induction listTokens ls with
  | case1 => rfl
  | case2 l => exact l.spell_tokens
  | case3 l m rest ih =>
    rw [Token.spell_append, spell_tokens, Token.spell_cons, Token.spell_cons, ih]
    simp [Text.joinWith, Token.text]

theorem separated_listTokens (ls : List Literal) : Token.Separated (listTokens ls) := by
  fun_induction listTokens ls with
  | case1 => exact Token.separated_nil
  | case2 l => exact l.separated_tokens
  | case3 l m rest ih => exact l.separated_tokens.append_char (.cons_char rfl (.cons_char rfl ih))

end Literal

/-- The literal that a value stands for.  Truth values and finite numbers are numerals, all other values that have a
text of their own are strings. -/
def Value.token? : Value → Option Literal
  | .bool b => some (.number ⟨if b then ['1'] else ['0'], by cases b <;> decide⟩)
  | .int i => some (.number ⟨Text.ofInt i.toInt, isNumeral_ofInt _⟩)
  | .uint u => some (.number ⟨Text.ofNat u.toNat, isNumeral_ofNat _⟩)
  | .decimal d => some (.number ⟨d.toText, d.isNumeral_toText⟩)
  | .double d => if h : d.isFinite = true then some (.number ⟨d.toText, Double.isNumeral_toText h⟩) else none
  | v => v.toText?.map .string

/-- The literal of a value is the spelling of its token. -/
theorem Value.literal_eq_ok_iff {v : Value} {t : Text} :
    v.literal = .ok t ↔ ∃ l, v.token? = some l ∧ l.text = t := by
  cases v with
  | double d => by_cases h : d.isFinite = true <;> simp [literal, token?, h, Literal.text]
  | _ => simp [literal, token?, toText?, Literal.text]

/-- What is made of the literal of a value is made of the spelling of its token. -/
theorem Value.exists_token?_of_map_literal {v : Value} {render : Text → Text} {t : Text}
    (h : v.literal.map render = .ok t) : ∃ l, v.token? = some l ∧ render l.text = t := by
  obtain ⟨literal, hliteral, ht⟩ := map_eq_ok_iff.mp h
  obtain ⟨l, hl, rfl⟩ := literal_eq_ok_iff.mp hliteral
  exact ⟨l, hl, ht⟩

/-- A token says the text of its value. -/
theorem Value.toText?_of_token? {v : Value} {l : Literal} (h : v.token? = some l) : v.toText? = some l.content := by
  cases v with
  | double d =>
    simp only [token?, Option.dite_none_right_eq_some] at h
    obtain ⟨_, h⟩ := h
    obtain rfl := Option.some.inj h
    rfl
  | _ =>
    simp [token?, toText?] at h
    try subst h
    try rfl

/-- The literals of all leaves of a value in batches. -/
def Value.tokenBatches? (v : Value) : Option (List (List Literal)) :=
  (v.leaves.mapM Value.token?).map (cutAfter (batchSize - 1))

private theorem exists_tokens_of_literals {leaves : List Value} {ts : List Text}
    (h : leaves.mapM Value.literal = .ok ts) :
    ∃ ls, leaves.mapM Value.token? = some ls ∧ ls.map Literal.text = ts := by
  induction leaves generalizing ts with
  | nil =>
    obtain rfl : [] = ts := Except.ok.inj h
    exact ⟨[], rfl, rfl⟩
  | cons leaf leaves ih =>
    obtain ⟨t, rest, hleaf, hrest, rfl⟩ := mapM_cons_eq_ok_iff.mp h
    obtain ⟨l, hl, rfl⟩ := Value.literal_eq_ok_iff.mp hleaf
    obtain ⟨ls, hls, rfl⟩ := ih hrest
    exact ⟨l :: ls, by simp [hl, hls], rfl⟩

private theorem cutAfter_map {α β : Type} (f : α → β) (size : Nat) (l : List α) :
    cutAfter size (l.map f) = (cutAfter size l).map (List.map f) := by
  fun_induction cutAfter size l with
  | case1 => rw [List.map_nil, cutAfter]; rfl
  | case2 a rest ih => rw [List.map_cons, cutAfter, ← List.map_take, ← List.map_drop, ih]; rfl

private theorem ne_nil_of_mem_cutAfter {α : Type} {size : Nat} {l batch : List α} (h : batch ∈ cutAfter size l) :
    batch ≠ [] := by
  fun_induction cutAfter size l with
  | case1 => simp at h
  | case2 a rest ih =>
    rcases List.mem_cons.mp h with rfl | h
    · simp
    · exact ih h

theorem flatten_cutAfter {α : Type} (size : Nat) (l : List α) : (cutAfter size l).flatten = l := by
  fun_induction cutAfter size l with
  | case1 => rfl
  | case2 a rest ih => rw [List.flatten_cons, ih, List.cons_append, List.take_append_drop]

/-- Batches of literals are the spelling of batches of tokens, none of which is empty. -/
theorem Value.exists_tokenBatches {v : Value} {batches : List Text} (h : v.literalBatches = .ok batches) :
    ∃ literals, v.tokenBatches? = some literals ∧ (∀ batch ∈ literals, batch ≠ []) ∧
      batches = literals.map fun batch => Token.spell (Literal.listTokens batch) := by
  obtain ⟨ts, hts, rfl⟩ := map_eq_ok_iff.mp h
  obtain ⟨ls, hls, rfl⟩ := exists_tokens_of_literals hts
  -- cutting does not look at what it cuts, so that texts and tokens are cut at the same places
  refine ⟨cutAfter (batchSize - 1) ls, by rw [tokenBatches?, hls, Option.map_some],
    fun _ => ne_nil_of_mem_cutAfter, ?_⟩
  rw [cutAfter_map, List.map_map]
  exact List.map_congr_left fun batch _ => (Literal.spell_listTokens batch).symm

end EntityStore
