import EntityStore.Proofs.Sql.Literal

/-!
# Nested parentheses

A statement is read from the inside out.  Tokens are taken one by one; an opening parenthesis puts aside what was
taken so far, and a closing one turns what stands since its opening into one piece, the words between the two together
with what a grammar reads from them.  Spaces outside of names, literals and parentheses separate words.

A grammar is thus a function on words that never looks into a parenthesis again.  `Spells` says that tokens have given
words wherever they stand, and the rules for it follow the ways in which statements are put together.
-/

namespace EntityStore

/-- A piece of a statement: a token outside of parentheses, or a pair of parentheses with the words between them and
what they were read as. -/
inductive Piece (α : Type) where
  | token (t : Token)
  | group (inside : List (List (Piece α))) (reading : α)

namespace Piece

variable {α : Type}

/-- Whether a piece separates words. -/
def isSpace : Piece α → Bool
  | token (.char c) => c == ' '
  | _ => false

/-- The character that a piece is, if it is one. -/
def char? : Piece α → Option Char
  | token (.char c) => some c
  | _ => none

/-- The characters of a text as pieces. -/
def ofText (t : Text) : List (Piece α) :=
  t.map fun c => token (.char c)

/-- The text that pieces are, if all of them are characters. -/
def text? (ps : List (Piece α)) : Option Text :=
  ps.mapM char?

/-- What stands after the characters of a text. -/
def dropText? : Text → List (Piece α) → Option (List (Piece α))
  | [], ps => some ps
  | c :: t, token (.char d) :: ps => if c = d then dropText? t ps else none
  | _, _ => none

/-- The words of pieces. -/
def words (ps : List (Piece α)) : List (List (Piece α)) :=
  ps.splitOnP isSpace

/-- The literal that a word is, if it is one. -/
def literal? : List (Piece α) → Option Literal
  | [token (.string t)] => some (.string t)
  | w => (text? w).bind fun t => if h : isNumeral t = true then some (.number ⟨t, h⟩) else none

/-- The word before a comma at its end. -/
def dropComma? (w : List (Piece α)) : Option (List (Piece α)) :=
  match w.getLast? with
  | some (token (.char ',')) => some w.dropLast
  | _ => none

/-- The literals that words list, each but the last with a comma at its end. -/
def literals? : List (List (Piece α)) → Option (List Literal)
  | [] => none
  | [w] => (literal? w).map ([·])
  | w :: rest => do
    let l ← (dropComma? w).bind literal?
    let ls ← literals? rest
    some (l :: ls)

@[simp]
theorem text?_ofText (t : Text) : text? (ofText t : List (Piece α)) = some t := by
  induction t with
  | nil => rfl
  | cons c t ih =>
    rw [text?, ofText, List.mapM_map] at ih
    simp [text?, ofText, ih, char?]

@[simp]
theorem dropText?_ofText (t : Text) (ps : List (Piece α)) : dropText? t (ofText t ++ ps) = some ps := by
  induction t with
  | nil => rfl
  | cons c t ih => simpa [ofText, dropText?] using ih

theorem words_append_space (ps qs : List (Piece α)) :
    words (ps ++ token (.char ' ') :: qs) = words ps ++ words qs :=
  List.splitOnP_append_cons ps qs rfl

theorem words_of_noSpace {ps : List (Piece α)} (h : ∀ p ∈ ps, p.isSpace = false) : words ps = [ps] :=
  List.splitOnP_eq_singleton h

end Piece

/-! ### Reading from the inside out -/

/-- What is read from the words between two parentheses. -/
abbrev Grammar (α : Type) := List (List (Piece α)) → α

section

variable {α : Type} (g : Grammar α)

/-- Reads tokens into pieces.  `outer` holds what was taken before each parenthesis that is still open, the innermost
first, and `done` what was taken since. -/
def nestFrom (outer : List (List (Piece α))) (done : List (Piece α)) : List Token → Option (List (Piece α))
  | [] => if outer.isEmpty then some done else none
  | t :: ts =>
    if t = .char '(' then nestFrom (done :: outer) [] ts
    else if t = .char ')' then
      outer.head?.bind fun before =>
        nestFrom outer.tail (before ++ [.group (Piece.words done) (g (Piece.words done))]) ts
    else nestFrom outer (done ++ [.token t]) ts

/-- The words of a text. -/
def readWords? (t : Text) : Option (List (List (Piece α))) :=
  (Token.scan? t).bind fun ts => (nestFrom g [] [] ts).map Piece.words

/-- The tokens become the pieces wherever they stand. -/
def Nests (ts : List Token) (ps : List (Piece α)) : Prop :=
  ∀ outer done rest, nestFrom g outer done (ts ++ rest) = nestFrom g outer (done ++ ps) rest

/-- The tokens are one word, or part of one. -/
structure IsWord (ts : List Token) (w : List (Piece α)) : Prop where
  nests : Nests g ts w
  noSpace : ∀ p ∈ w, p.isSpace = false

/-- The tokens have the given words. -/
def Spells (ts : List Token) (ws : List (List (Piece α))) : Prop :=
  ∃ ps, Nests g ts ps ∧ Piece.words ps = ws

end

variable {α : Type} {g : Grammar α}

theorem Nests.append {ts us : List Token} {ps qs : List (Piece α)} (ht : Nests g ts ps) (hu : Nests g us qs) :
    Nests g (ts ++ us) (ps ++ qs) := by
  intro outer done rest
  rw [List.append_assoc, ht, hu, List.append_assoc]

theorem nests_nil : Nests g [] ([] : List (Piece α)) := by
  intro outer done rest
  rw [List.nil_append, List.append_nil]

theorem nests_token {t : Token} (hopen : t ≠ .char '(') (hclose : t ≠ .char ')') :
    Nests g [t] [.token t] := by
  intro outer done rest
  rw [List.singleton_append, nestFrom, if_neg hopen, if_neg hclose]

/-- A pair of parentheses becomes one piece. -/
theorem Spells.nests_group {ts : List Token} {ws : List (List (Piece α))} (h : Spells g ts ws) :
    Nests g (Token.enclose ts) [.group ws (g ws)] := by
  obtain ⟨ps, hnests, rfl⟩ := h
  intro outer done rest
  rw [Token.enclose, List.cons_append, List.cons_append, List.append_assoc, nestFrom, if_pos rfl, hnests,
    List.nil_append, List.singleton_append, nestFrom, if_neg (by decide), if_pos rfl]
  rfl

theorem IsWord.append {ts us : List Token} {w v : List (Piece α)} (ht : IsWord g ts w) (hu : IsWord g us v) :
    IsWord g (ts ++ us) (w ++ v) := by
  refine ⟨ht.nests.append hu.nests, fun p hp => ?_⟩
  rcases List.mem_append.mp hp with hp | hp
  · exact ht.noSpace p hp
  · exact hu.noSpace p hp

/-- Neither a parenthesis nor a space. -/
def Token.isInWord : Token → Bool
  | char c => c != '(' && c != ')' && c != ' '
  | _ => true

/-- Whether a text has neither parentheses nor spaces. -/
def isWordText (t : Text) : Bool :=
  t.all fun c => (Token.char c).isInWord

theorem isWord_token {t : Token} (h : t.isInWord = true) : IsWord g [t] [.token t] := by
  have hopen : t ≠ .char '(' := by
    rintro rfl
    exact absurd h (by decide)
  have hclose : t ≠ .char ')' := by
    rintro rfl
    exact absurd h (by decide)
  refine ⟨nests_token hopen hclose, fun p hp => ?_⟩
  obtain rfl := List.mem_singleton.mp hp
  cases t with
  | char c =>
    simp only [Token.isInWord, Bool.and_eq_true, bne_iff_ne] at h
    simpa [Piece.isSpace] using h.2
  | _ => rfl

/-- Tokens other than parentheses and spaces are part of a word. -/
theorem isWord_tokens {ts : List Token} (h : ∀ t ∈ ts, t.isInWord = true) : IsWord g ts (ts.map .token) := by
  induction ts with
  | nil => exact ⟨nests_nil, by simp⟩
  | cons t ts ih =>
    have hfirst : IsWord g [t] [.token t] := isWord_token (h t (List.mem_cons_self ..))
    exact hfirst.append (ih fun u hu => h u (List.mem_cons_of_mem t hu))

theorem isWord_chars {t : Text} (h : isWordText t = true) : IsWord g (Token.chars t) (Piece.ofText t) := by
  have hword : IsWord g (Token.chars t) ((Token.chars t).map .token) := by
    refine isWord_tokens fun u hu => ?_
    obtain ⟨c, hc, rfl⟩ := List.mem_map.mp hu
    exact List.all_eq_true.mp h c hc
  rwa [Token.chars, List.map_map] at hword

theorem Spells.isWord_group {ts : List Token} {ws : List (List (Piece α))} (h : Spells g ts ws) :
    IsWord g (Token.enclose ts) [.group ws (g ws)] :=
  ⟨h.nests_group, by simp [Piece.isSpace]⟩

theorem IsWord.spells {ts : List Token} {w : List (Piece α)} (h : IsWord g ts w) : Spells g ts [w] :=
  ⟨w, h.nests, Piece.words_of_noSpace h.noSpace⟩

/-- A space joins words. -/
theorem Spells.space {ts us : List Token} {ws vs : List (List (Piece α))} (ht : Spells g ts ws)
    (hu : Spells g us vs) : Spells g (ts ++ .char ' ' :: us) (ws ++ vs) := by
  obtain ⟨ps, hps, rfl⟩ := ht
  obtain ⟨qs, hqs, rfl⟩ := hu
  have hspace : Nests g [.char ' '] [.token (.char ' ')] := nests_token (by simp) (by simp)
  exact ⟨_, hps.append (hspace.append hqs), Piece.words_append_space ps qs⟩

/-- What is spelled is read as its words. -/
theorem Spells.readWords? {ts : List Token} {ws : List (List (Piece α))} (h : Spells g ts ws)
    (hts : Token.Separated ts) : readWords? g (Token.spell ts) = some ws := by
  obtain ⟨ps, hnests, rfl⟩ := h
  have hnest := hnests [] [] []
  rw [List.append_nil, List.nil_append, nestFrom, List.isEmpty_nil, if_pos rfl] at hnest
  rw [EntityStore.readWords?, Token.scan?_spell hts, Option.bind_some, hnest]
  rfl

/-! ### Literals -/

theorem Literal.isWord_number (n : Numeral) : IsWord g (Token.chars n.text) (Piece.ofText n.text) := by
  refine isWord_chars (List.all_eq_true.mpr fun c hc => ?_)
  have h := n.isNumeralChar_of_mem c hc
  simp only [Token.isInWord, Bool.and_eq_true, bne_iff_ne]
  refine ⟨⟨?_, ?_⟩, ?_⟩ <;> rintro rfl <;> exact absurd h (by decide)

/-- The word that a literal is. -/
def Literal.word : Literal → List (Piece α)
  | .string t => [.token (.string t)]
  | .number n => Piece.ofText n.text

theorem Literal.isWord_tokens (l : Literal) : IsWord g l.tokens l.word := by
  cases l with
  | string t => exact isWord_token rfl
  | number n => exact isWord_number n

theorem Piece.literal?_word (l : Literal) : literal? (l.word : List (Piece α)) = some l := by
  cases l with
  | string t => rfl
  | number n =>
    have hword : literal? (ofText n.text : List (Piece α)) = (text? (ofText n.text : List (Piece α))).bind fun t =>
        if h : isNumeral t = true then some (.number ⟨t, h⟩) else none := by
      unfold literal?
      split
      · next t heq => cases htext : n.text <;> simp [htext, ofText] at heq
      · rfl
    rw [Literal.word, hword, text?_ofText, Option.bind_some, dif_pos n.isNumeral_text]

private theorem Piece.dropComma?_append (w : List (Piece α)) :
    dropComma? (w ++ [token (.char ',')]) = some w := by
  simp [dropComma?]

/-- Literals with commas between them are read again. -/
theorem Literal.spells_listTokens {ls : List Literal} (h : ls ≠ []) :
    ∃ ws, Spells g (listTokens ls) ws ∧ Piece.literals? ws = some ls := by
  fun_induction listTokens ls with
  | case1 => exact absurd rfl h
  | case2 l => exact ⟨[l.word], l.isWord_tokens.spells, by simp [Piece.literals?, Piece.literal?_word]⟩
  | case3 l m rest ih =>
    obtain ⟨ws, hspells, hread⟩ := ih (by simp)
    have hcomma : IsWord g [.char ','] [.token (.char ',')] := isWord_token rfl
    have hword := (l.isWord_tokens (g := g)).append hcomma
    refine ⟨[l.word ++ [.token (.char ',')]] ++ ws, by simpa using hword.spells.space hspells, ?_⟩
    -- the reader drops commas only where words follow
    obtain ⟨w, ws, rfl⟩ : ∃ w vs, ws = w :: vs := by
      cases ws with
      | nil => simp [Piece.literals?] at hread
      | cons w vs => exact ⟨w, vs, rfl⟩
    rw [List.singleton_append, Piece.literals?, Piece.dropComma?_append]
    · simp [Piece.literal?_word, hread]
    · simp

end EntityStore
