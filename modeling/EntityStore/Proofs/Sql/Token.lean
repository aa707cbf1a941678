import EntityStore.Proofs.Text.Doubling
import Mathlib.Data.List.Chain

/-!
# Tokens

The lexical rules that a statement is read by: a bracketed name and a string literal are one token each, every other
character is a token of its own.  `Token.scan?` reads a text into its tokens, `Token.spell` writes tokens out again.

Scanning is exact.  What it reads spells the text it was read from (`spell_of_scan?`), and what is spelled is read
again if no two string literals touch and no other token is a mark that opens or closes one (`scan?_spell`).
-/

namespace EntityStore

/-- A token of a statement. -/
inductive Token where
  /-- A bracketed name. -/
  | name (t : Text)
  /-- A string literal. -/
  | string (t : Text)
  /-- Any other character. -/
  | char (c : Char)
  deriving DecidableEq, Repr

namespace Token

/-- A token as it is written. -/
def text : Token → Text
  | name t => t.bracket
  | string t => t.quote
  | char c => [c]

/-- Tokens as they are written. -/
def spell (ts : List Token) : Text :=
  ts.flatMap text

/-- The tokens of a text; there are none if a name or a literal does not end. -/
def scan? : Text → Option (List Token)
  | [] => some []
  | c :: rest =>
    if c = '[' then
      match _h : Text.readUpTo? ']' rest with
      | some (t, after) => (scan? after).map (name t :: ·)
      | none => none
    else if c = '\'' then
      match _h : Text.readUpTo? '\'' rest with
      | some (t, after) => (scan? after).map (string t :: ·)
      | none => none
    else (scan? rest).map (char c :: ·)
  termination_by t => t.length
  decreasing_by
    · have := Text.length_lt_of_readUpTo? _h
      rw [List.length_cons]
      omega
    · have := Text.length_lt_of_readUpTo? _h
      rw [List.length_cons]
      omega
    · rw [List.length_cons]
      omega

/-- The characters of a text as tokens. -/
def chars (t : Text) : List Token :=
  t.map char

/-- Tokens between parentheses. -/
def enclose (ts : List Token) : List Token :=
  char '(' :: ts ++ [char ')']

@[simp]
theorem spell_nil : spell [] = [] := rfl

@[simp]
theorem spell_cons (t : Token) (ts : List Token) : spell (t :: ts) = t.text ++ spell ts := rfl

@[simp]
theorem spell_append (ts us : List Token) : spell (ts ++ us) = spell ts ++ spell us :=
  List.flatMap_append

@[simp]
theorem spell_chars (t : Text) : spell (chars t) = t := by
  simp [spell, chars, text, List.flatMap_map]

theorem spell_enclose (ts : List Token) : spell (enclose ts) = '(' :: spell ts ++ [')'] := by
  simp [enclose, text]

/-- What scanning reads spells the text that it was read from. -/
theorem spell_of_scan? {t : Text} {ts : List Token} (h : scan? t = some ts) : spell ts = t := by
  fun_induction scan? t generalizing ts with
  | case1 =>
    obtain rfl := Option.some.inj h
    rfl
  | case2 rest u after hread ih =>
    obtain ⟨us, hscan, rfl⟩ := Option.map_eq_some_iff.mp h
    rw [spell_cons, ih hscan, (Text.eq_doubled_of_readUpTo? hread).1]
    simp [text, Text.bracket, Text.doubleBrackets_eq]
  | case3 => simp at h
  | case4 rest u after hread _ ih =>
    obtain ⟨us, hscan, rfl⟩ := Option.map_eq_some_iff.mp h
    rw [spell_cons, ih hscan, (Text.eq_doubled_of_readUpTo? hread).1]
    simp [text, Text.quote, Text.doubleQuotes_eq]
  | case5 => simp at h
  | case6 c rest hbracket hquote ih =>
    obtain ⟨us, hscan, rfl⟩ := Option.map_eq_some_iff.mp h
    rw [spell_cons, ih hscan]
    rfl

theorem scan?_bracket {after : Text} (h : after.head? ≠ some ']') (t : Text) :
    scan? (t.bracket ++ after) = (scan? after).map (name t :: ·) := by
  have hread := Text.readUpTo?_doubled h t
  rw [Text.bracket, Text.doubleBrackets_eq]
  simp only [List.cons_append, List.append_assoc, List.nil_append]
  rw [scan?, if_pos rfl]
  split
  · next u rest hu =>
    rw [hread] at hu
    obtain ⟨rfl, rfl⟩ := Prod.mk.inj (Option.some.inj hu)
    rfl
  · next hnone =>
    rw [hread] at hnone
    exact absurd hnone (Option.some_ne_none _)

theorem scan?_quote {after : Text} (h : after.head? ≠ some '\'') (t : Text) :
    scan? (t.quote ++ after) = (scan? after).map (string t :: ·) := by
  have hread := Text.readUpTo?_doubled h t
  rw [Text.quote, Text.doubleQuotes_eq]
  simp only [List.cons_append, List.append_assoc, List.nil_append]
  rw [scan?, if_neg (by decide), if_pos rfl]
  split
  · next u rest hu =>
    rw [hread] at hu
    obtain ⟨rfl, rfl⟩ := Prod.mk.inj (Option.some.inj hu)
    rfl
  · next hnone =>
    rw [hread] at hnone
    exact absurd hnone (Option.some_ne_none _)

theorem scan?_char {c : Char} (hbracket : c ≠ '[') (hquote : c ≠ '\'') (after : Text) :
    scan? (c :: after) = (scan? after).map (char c :: ·) := by
  rw [scan?, if_neg hbracket, if_neg hquote]

/-! ### Tokens that can be told apart -/

/-- Neither a bracket nor a quote. -/
def isPlain : Token → Bool
  | char c => c != '[' && c != ']' && c != '\''
  | _ => true

/-- Two tokens that may stand side by side: a literal directly after a literal would be read as one. -/
def mayPrecede : Token → Token → Bool
  | string _, string _ => false
  | _, _ => true

/-- Tokens whose spelling shows where each of them ends. -/
structure Separated (ts : List Token) : Prop where
  plain : ∀ t ∈ ts, t.isPlain
  chain : ts.IsChain fun t u => t.mayPrecede u

private theorem head?_spell_ne_bracket {ts : List Token} (h : ∀ t ∈ ts, t.isPlain) :
    (spell ts).head? ≠ some ']' := by
  cases ts with
  | nil => simp
  | cons t ts =>
    have ht := h t (List.mem_cons_self ..)
    cases t <;> simp_all [text, Text.bracket, Text.quote, isPlain]

private theorem head?_spell_ne_quote {t : Text} {ts : List Token} (h : Separated (string t :: ts)) :
    (spell ts).head? ≠ some '\'' := by
  cases ts with
  | nil => simp
  | cons u ts =>
    have hu := h.plain u (by simp)
    have hnext := (List.isChain_cons_cons.mp h.chain).1
    cases u <;> simp_all [text, Text.bracket, isPlain, mayPrecede]

theorem Separated.tail {t : Token} {ts : List Token} (h : Separated (t :: ts)) : Separated ts :=
  ⟨fun u hu => h.plain u (List.mem_cons_of_mem t hu), h.chain.tail⟩

/-- What is spelled is read again. -/
theorem scan?_spell {ts : List Token} (h : Separated ts) : scan? (spell ts) = some ts := by
  induction ts with
  | nil => rw [spell_nil, scan?]
  | cons t ts ih =>
    rw [spell_cons]
    cases t with
    | name u => rw [text, scan?_bracket (head?_spell_ne_bracket h.tail.plain), ih h.tail]; rfl
    | string u => rw [text, scan?_quote (head?_spell_ne_quote h), ih h.tail]; rfl
    | char c =>
      have hc := h.plain (char c) (List.mem_cons_self ..)
      simp only [isPlain, Bool.and_eq_true, bne_iff_ne] at hc
      rw [text, List.singleton_append, scan?_char hc.1.1 hc.2, ih h.tail]
      rfl

/-! ### Putting separated tokens together

Wherever two parts of a statement meet, a character other than a bracket or a quote stands between them. -/

theorem separated_nil : Separated [] :=
  ⟨by simp, List.isChain_nil⟩

theorem separated_singleton {t : Token} (h : t.isPlain = true) : Separated [t] :=
  ⟨by simpa using h, List.isChain_singleton t⟩

private theorem mayPrecede_char (t : Token) (c : Char) : t.mayPrecede (char c) = true := by
  cases t <;> rfl

theorem Separated.cons_char {c : Char} {ts : List Token} (hc : (char c).isPlain = true) (h : Separated ts) :
    Separated (char c :: ts) := by
  refine ⟨fun t ht => ?_, ?_⟩
  · rcases List.mem_cons.mp ht with rfl | ht
    · exact hc
    · exact h.plain t ht
  · cases ts with
    | nil => exact List.isChain_singleton _
    | cons u ts => exact List.isChain_cons_cons.mpr ⟨rfl, h.chain⟩

theorem Separated.append_char {c : Char} {ts us : List Token} (ht : Separated ts)
    (hu : Separated (char c :: us)) : Separated (ts ++ char c :: us) := by
  refine ⟨fun t h => ?_, ?_⟩
  · rcases List.mem_append.mp h with h | h
    · exact ht.plain t h
    · exact hu.plain t h
  · -- only the two tokens where the parts meet are new neighbours
    rw [List.isChain_append]
    refine ⟨ht.chain, hu.chain, fun t _ u hu => ?_⟩
    obtain rfl : char c = u := by simpa using hu
    exact mayPrecede_char t c

theorem Separated.enclose {ts : List Token} (h : Separated ts) : Separated (enclose ts) := by
  rw [Token.enclose, List.cons_append]
  exact .cons_char rfl (h.append_char (separated_singleton rfl))

/-- Whether a text has neither brackets nor quotes. -/
def isPlainText (t : Text) : Bool :=
  t.all fun c => (char c).isPlain

theorem Separated.chars_append {t : Text} {ts : List Token} (ht : isPlainText t = true) (h : Separated ts) :
    Separated (chars t ++ ts) := by
  induction t with
  | nil => exact h
  | cons c t ih =>
    rw [isPlainText, List.all_cons, Bool.and_eq_true] at ht
    exact .cons_char ht.1 (ih ht.2)

theorem separated_chars {t : Text} (ht : isPlainText t = true) : Separated (chars t) := by
  simpa using separated_nil.chars_append ht

end Token

end EntityStore
