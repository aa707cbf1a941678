import EntityStore.Dialect.Lite
import EntityStore.Proofs.Sql.Token

/-!
# Casts in the lite dialect

Casts are rewritten by searching the raw text of a statement for the mark that begins one.  A name or a literal ends
with a character that the mark does not have, so that no mark reaches across its end, and doubling quotes and brackets
brings no other characters together: a mark stands in a name or a literal only if the name or the literal says it.
Other text is passed over where it differs from the mark (`isInert`).

What is left are the casts themselves.  If the names and literals of a statement do not say the mark, then its casts
are rewritten and every name and literal stays as it is (`Castable.exists_rewritten`).
-/

namespace EntityStore

namespace Token

/-- Whether a token is a name or a literal. -/
def isData : Token → Bool
  | name _ => true
  | string _ => true
  | char _ => false

/-- What a token says. -/
def content : Token → Text
  | name t => t
  | string t => t
  | char c => [c]

/-- The names and literals of a statement, in their order; nothing if one of them does not end. -/
def data? (sql : Text) : Option (List Token) :=
  (scan? sql).map (List.filter isData)

theorem data?_spell {ts : List Token} (h : Separated ts) : data? (spell ts) = some (ts.filter isData) := by
  rw [data?, scan?_spell h, Option.map_some]

end Token

namespace Lite

/-! ### Going through a text -/

theorem castsFrom?_of_none {t : Text} (h : Text.splitFirst? castMark t = none) : castsFrom? t = some t := by
  rw [castsFrom?]
  split
  · rfl
  · next hs =>
    rw [h] at hs
    cases hs

theorem castsFrom?_of_some {t before after : Text} (h : Text.splitFirst? castMark t = some (before, after)) :
    castsFrom? t = (splitOperand? false after).bind fun parts =>
      (castsFrom? parts.2).map fun tail => before ++ "CAST(".toList ++ parts.1 ++ " AS TEXT)".toList ++ tail := by
  rw [castsFrom?]
  split
  · next hs =>
    rw [h] at hs
    cases hs
  · next b a hs =>
    rw [h] at hs
    obtain ⟨rfl, rfl⟩ := Prod.mk.inj (Option.some.inj hs)
    split
    · next ho => rw [ho, Option.bind_none]
    · next ho => rw [ho, Option.bind_some]

private theorem dropMark?_eq_none {mark t : Text} (h : ¬mark <+: t) : Text.dropMark? mark t = none := by
  rw [← Option.isNone_iff_eq_none, ← Option.isSome_eq_false_iff, ← Bool.not_eq_true, Text.isSome_dropMark?_iff]
  exact h

theorem castsFrom?_nil : castsFrom? [] = some [] :=
  castsFrom?_of_none rfl

/-- Where no cast begins, a character stays. -/
theorem castsFrom?_cons {c : Char} {t : Text} (h : ¬castMark <+: c :: t) :
    castsFrom? (c :: t) = (castsFrom? t).map (c :: ·) := by
  have hsplit : Text.splitFirst? castMark (c :: t) =
      (Text.splitFirst? castMark t).map fun parts => (c :: parts.1, parts.2) := by
    rw [Text.splitFirst?, dropMark?_eq_none h]
  cases hs : Text.splitFirst? castMark t with
  | none =>
    rw [hs, Option.map_none] at hsplit
    rw [castsFrom?_of_none hs, castsFrom?_of_none hsplit, Option.map_some]
  | some parts =>
    rw [hs, Option.map_some] at hsplit
    rw [castsFrom?_of_some hs, castsFrom?_of_some hsplit, Option.map_bind]
    refine congrArg _ (funext fun parts => ?_)
    rw [Function.comp_apply, Option.map_map]
    rfl

/-- A character that is in no cast mark keeps the text before it apart from what follows. -/
theorem castsFrom?_append {s : Text} (hs : ¬castMark <:+: s) {e : Char} (he : e ∉ castMark) (t : Text) :
    castsFrom? (s ++ e :: t) = (castsFrom? t).map fun u => s ++ e :: u := by
  -- a mark at the front either ends before `e`, so that the text begins with it, or has `e` in it
  have hstarts {s : Text} (hs : ¬castMark <+: s) : ¬castMark <+: s ++ e :: t := by
    intro h
    have hend : s ++ [e] <+: s ++ e :: t := ⟨t, by simp⟩
    rcases List.prefix_or_prefix_of_prefix h hend with h | h
    · rcases List.prefix_concat_iff.mp h with heq | h
      · exact he (heq ▸ List.mem_append_right s (List.mem_singleton_self e))
      · exact hs h
    · exact he (h.subset (List.mem_append_right s (List.mem_singleton_self e)))
  induction s with
  | nil => exact castsFrom?_cons (hstarts (s := []) (by decide))
  | cons c s ih =>
    have hfront : ¬castMark <+: c :: s ++ e :: t := hstarts fun h => hs h.isInfix
    rw [List.cons_append] at hfront ⊢
    rw [castsFrom?_cons hfront, ih fun h => hs (List.infix_cons h), Option.map_map]
    rfl

/-- A statement that does not begin as an insertion does is only searched for casts. -/
theorem adapt_cons {c : Char} (hcast : c ≠ 'C') (hinsert : c ≠ 'I') (t : Text) :
    adapt (c :: t) = (castsFrom? (c :: t)).getD (c :: t) := by
  have hstarts {first : Char} {mark : Text} (hc : c ≠ first) (u : Text) : ¬first :: mark <+: c :: u :=
    fun h => hc (List.cons_prefix_cons.mp h).1.symm
  have hcasts : adaptCasts (c :: t) = c :: adaptCasts t := by
    rw [adaptCasts, adaptCasts, castsFrom?_cons (hstarts hcast t)]
    cases castsFrom? t <;> rfl
  have hinsertion : Text.dropMark? insertMark (c :: adaptCasts t) = none := dropMark?_eq_none (hstarts hinsert _)
  have houtput : adaptOutput? (adaptCasts (c :: t)) = none := by
    rw [hcasts, adaptOutput?, hinsertion]
    rfl
  rw [adapt, houtput, Option.getD_none, adaptCasts]

/-! ### Inert texts -/

/-- Whether two texts differ at a place that both of them reach. -/
def clashes : Text → Text → Bool
  | c :: t, d :: u => c != d || clashes t u
  | _, _ => false

/-- Whether no cast begins in a text, whatever follows it. -/
def isInert : Text → Bool
  | [] => true
  | c :: t => clashes castMark (c :: t) && isInert t

private theorem not_prefix_of_clashes {mark t : Text} (h : clashes mark t = true) (u : Text) : ¬mark <+: t ++ u := by
  fun_induction clashes mark t with
  | case1 c mark d t ih =>
    rw [List.cons_append, List.cons_prefix_cons]
    rintro ⟨rfl, hstarts⟩
    exact ih (by simpa using h) hstarts
  | case2 => simp at h

theorem castsFrom?_inert {s : Text} (hs : isInert s = true) (t : Text) :
    castsFrom? (s ++ t) = (castsFrom? t).map (s ++ ·) := by
  induction s with
  | nil => simp
  | cons c s ih =>
    rw [isInert, Bool.and_eq_true] at hs
    have hfront := not_prefix_of_clashes hs.1 t
    rw [List.cons_append] at hfront ⊢
    rw [castsFrom?_cons hfront, ih hs.2, Option.map_map]
    rfl

theorem isInert_of_notMem {s : Text} (h : 'C' ∉ s) : isInert s = true := by
  induction s with
  | nil => rfl
  | cons c s ih =>
    rw [List.mem_cons, not_or] at h
    have hclash : clashes castMark (c :: s) = true := by
      show ('C' != c || _) = true
      simp [h.1]
    rw [isInert, hclash, ih h.2]
    rfl

/-! ### Names, literals and casts -/

private theorem castsFrom?_enclosed {first mark : Char} (hmark : mark ∉ castMark) (hfirst : first ∉ castMark)
    {t : Text} (h : ¬castMark <:+: t) (after : Text) :
    castsFrom? (first :: t.doubled mark ++ mark :: after) =
      (castsFrom? after).map fun u => first :: t.doubled mark ++ mark :: u := by
  refine castsFrom?_append (fun hoccurs => ?_) hmark after
  rcases List.infix_cons_iff.mp hoccurs with hstarts | hoccurs
  · exact hfirst ((List.cons_prefix_cons.mp hstarts).1 ▸ List.mem_cons_self ..)
  · exact h (Text.infix_of_infix_doubled hmark (by decide) hoccurs)

private theorem splitOperand?_doubled (t after : Text) :
    splitOperand? true (t.doubled ']' ++ ']' :: ')' :: after) = some (t.doubled ']' ++ [']'], after) := by
  induction t with
  | nil => rfl
  | cons c t ih =>
    by_cases hc : c = ']'
    · rw [hc, Text.doubled_cons_self, List.cons_append, List.cons_append, splitOperand?, ih]
      rfl
    · have hother (u : Text) : splitOperand? true (c :: u) =
          (splitOperand? true u).map fun parts => (c :: parts.1, parts.2) := by
        rw [splitOperand?]
        · exact fun _ h _ => hc h
        · exact hc
      rw [Text.doubled_cons_of_ne hc, List.cons_append, hother, ih]
      rfl

/-- The parenthesis after a column closes its cast, whatever the name is. -/
private theorem splitOperand?_bracket (column after : Text) :
    splitOperand? false (Text.bracket column ++ ')' :: after) = some (Text.bracket column, after) := by
  have htext : Text.bracket column ++ ')' :: after = '[' :: (column.doubled ']' ++ ']' :: ')' :: after) := by
    simp [Text.bracket, Text.doubleBrackets_eq]
  rw [htext, splitOperand?, splitOperand?_doubled]
  rfl

/-- A cast of a column gets the form of the dialect. -/
theorem castsFrom?_cast (column t : Text) :
    castsFrom? (castMark ++ (Text.bracket column ++ ')' :: t)) =
      (castsFrom? t).map fun u => "CAST(".toList ++ Text.bracket column ++ " AS TEXT)".toList ++ u := by
  have hsplit (u : Text) : Text.splitFirst? castMark (castMark ++ u) = some ([], u) := by
    have hmark : Text.dropMark? castMark (castMark ++ u) = some u := Text.dropMark?_eq_some_iff.mpr rfl
    have hcons : castMark ++ u = 'C' :: (castMark.tail ++ u) := rfl
    rw [hcons] at hmark ⊢
    rw [Text.splitFirst?, hmark]
  rw [castsFrom?_of_some (hsplit _), splitOperand?_bracket, Option.bind_some]
  rfl

theorem castsFrom?_name {name : Text} (h : ¬castMark <:+: name) (t : Text) :
    castsFrom? (Text.bracket name ++ t) = (castsFrom? t).map (Text.bracket name ++ ·) := by
  have hopen : '[' ∉ castMark := by decide
  have hclose : ']' ∉ castMark := by decide
  have hname := castsFrom?_enclosed hclose hopen h t
  simpa [Text.bracket, Text.doubleBrackets_eq] using hname

theorem castsFrom?_string {string : Text} (h : ¬castMark <:+: string) (t : Text) :
    castsFrom? (Text.quote string ++ t) = (castsFrom? t).map (Text.quote string ++ ·) := by
  have hmark : '\'' ∉ castMark := by decide
  have hstring := castsFrom?_enclosed hmark hmark h t
  simpa [Text.quote, Text.doubleQuotes_eq] using hstring

/-! ### Casts among tokens -/

open Token

/-- Tokens among which a cast mark stands, outside of names and literals, only where a column is cast. -/
inductive Castable : List Token → Prop where
  | nil : Castable []
  | text {s : Text} {ts : List Token} (hs : isInert s = true) (h : Castable ts) : Castable (chars s ++ ts)
  | name (t : Text) {ts : List Token} (h : Castable ts) : Castable (.name t :: ts)
  | string (t : Text) {ts : List Token} (h : Castable ts) : Castable (.string t :: ts)
  | cast (column : Text) {ts : List Token} (h : Castable ts) :
      Castable (chars castMark ++ .name column :: .char ')' :: ts)

theorem Castable.append {ts us : List Token} (ht : Castable ts) (hu : Castable us) : Castable (ts ++ us) := by
  induction ht with
  | nil => exact hu
  | text hs _ ih => exact List.append_assoc .. ▸ .text hs ih
  | name t _ ih => exact .name t ih
  | string t _ ih => exact .string t ih
  | cast column _ ih =>
    rw [List.append_assoc]
    exact .cast column ih

theorem Castable.char {c : Char} (hc : c ≠ 'C') {ts : List Token} (h : Castable ts) : Castable (.char c :: ts) :=
  .text (s := [c]) (isInert_of_notMem (by simpa using hc.symm)) h

theorem castable_chars {s : Text} (hs : isInert s = true) : Castable (chars s) := by
  simpa using Castable.text hs .nil

theorem Castable.enclose {ts : List Token} (h : Castable ts) : Castable (enclose ts) :=
  .char (by decide) (h.append (.char (by decide) .nil))

/-- Tokens after their casts were rewritten. -/
structure Rewritten (ts us : List Token) : Prop where
  castsFrom?_eq : castsFrom? (spell ts) = some (spell us)
  data_eq : us.filter isData = ts.filter isData
  separated : Separated ts → Separated us
  /-- A literal comes first only if it did before. -/
  head : ∀ t, us.head? = some (.string t) → ts.head? = some (.string t)

private theorem filter_isData_chars (s : Text) : (chars s).filter isData = [] := by
  rw [List.filter_eq_nil_iff]
  intro t ht
  obtain ⟨c, -, rfl⟩ := List.mem_map.mp ht
  exact Bool.false_ne_true

private theorem separated_name (t : Text) {ts : List Token} (h : Separated ts) : Separated (.name t :: ts) := by
  refine ⟨List.forall_mem_cons.mpr ⟨rfl, h.plain⟩, ?_⟩
  cases ts with
  | nil => exact List.isChain_singleton _
  | cons u ts => exact List.isChain_cons_cons.mpr ⟨rfl, h.chain⟩

private theorem separated_string (t : Text) {ts : List Token} (h : Separated ts)
    (hhead : ∀ u, ts.head? ≠ some (.string u)) : Separated (.string t :: ts) := by
  refine ⟨List.forall_mem_cons.mpr ⟨rfl, h.plain⟩, ?_⟩
  cases ts with
  | nil => exact List.isChain_singleton _
  | cons u ts =>
    refine List.isChain_cons_cons.mpr ⟨?_, h.chain⟩
    cases u with
    | string u => exact absurd rfl (hhead u)
    | _ => rfl

private theorem Rewritten.text {s : Text} (hs : isInert s = true) {ts us : List Token} (h : Rewritten ts us) :
    Rewritten (chars s ++ ts) (chars s ++ us) := by
  refine ⟨?_, ?_, fun hts => ?_, fun t ht => ?_⟩
  · rw [spell_append, spell_chars, castsFrom?_inert hs, h.castsFrom?_eq, Option.map_some, spell_append, spell_chars]
  · rw [List.filter_append, List.filter_append, h.data_eq]
  · have hplain : isPlainText s = true :=
      List.all_eq_true.mpr fun c hc => hts.plain _ (List.mem_append_left ts (List.mem_map_of_mem hc))
    exact (h.separated ⟨fun t ht => hts.plain t (List.mem_append_right _ ht), hts.chain.right_of_append⟩).chars_append
      hplain
  · cases s with
    | nil => exact h.head t ht
    | cons c s => cases ht

private theorem Rewritten.name {t : Text} (ht : ¬castMark <:+: t) {ts us : List Token} (h : Rewritten ts us) :
    Rewritten (.name t :: ts) (.name t :: us) := by
  refine ⟨?_, ?_, fun hts => separated_name t (h.separated hts.tail), fun _ hu => hu⟩
  · rw [spell_cons, Token.text, castsFrom?_name ht, h.castsFrom?_eq]
    rfl
  · rw [List.filter_cons_of_pos rfl, List.filter_cons_of_pos rfl, h.data_eq]

private theorem Rewritten.string {t : Text} (ht : ¬castMark <:+: t) {ts us : List Token} (h : Rewritten ts us) :
    Rewritten (.string t :: ts) (.string t :: us) := by
  refine ⟨?_, ?_, fun hts => separated_string t (h.separated hts.tail) fun u hu => ?_, fun _ hu => hu⟩
  · rw [spell_cons, Token.text, castsFrom?_string ht, h.castsFrom?_eq]
    rfl
  · rw [List.filter_cons_of_pos rfl, List.filter_cons_of_pos rfl, h.data_eq]
  · -- a literal after this one would have been there before
    have hhead := h.head u hu
    cases ts with
    | nil => cases hhead
    | cons v ts =>
      obtain rfl := Option.some.inj hhead
      exact absurd (List.isChain_cons_cons.mp hts.chain).1 Bool.false_ne_true

private theorem Rewritten.cast (column : Text) {ts us : List Token} (h : Rewritten ts us) :
    Rewritten (chars castMark ++ .name column :: .char ')' :: ts)
      (chars "CAST(".toList ++ .name column :: (chars " AS TEXT)".toList ++ us)) := by
  refine ⟨?_, ?_, fun hts => ?_, fun t ht => by cases ht⟩
  · have hspell : spell (chars castMark ++ .name column :: .char ')' :: ts) =
        castMark ++ (Text.bracket column ++ ')' :: spell ts) := by
      rw [spell_append, spell_chars]
      rfl
    rw [hspell, castsFrom?_cast, h.castsFrom?_eq, Option.map_some]
    simp [Token.text]
  · simp only [List.filter_append, List.filter_cons, filter_isData_chars, h.data_eq]
    rfl
  · have hrest : Separated ts :=
      ⟨fun t ht => hts.plain t (by simp [ht]), (hts.chain.right_of_append).tail.tail⟩
    exact (separated_name column ((h.separated hrest).chars_append (by decide))).chars_append (by decide)

/-- If no name and no literal says a cast mark, all of them stay as they are and in their order. -/
theorem Castable.exists_rewritten {ts : List Token} (h : Castable ts)
    (hdata : ∀ t ∈ ts, t.isData = true → ¬castMark <:+: t.content) : ∃ us, Rewritten ts us := by
  induction h with
  | nil => exact ⟨[], castsFrom?_nil, rfl, id, fun _ h => h⟩
  | text hs _ ih =>
    obtain ⟨us, hus⟩ := ih fun t ht => hdata t (List.mem_append_right _ ht)
    exact ⟨_, hus.text hs⟩
  | name t _ ih =>
    obtain ⟨us, hus⟩ := ih fun u hu => hdata u (List.mem_cons_of_mem _ hu)
    exact ⟨_, hus.name (hdata _ (List.mem_cons_self ..) rfl)⟩
  | string t _ ih =>
    obtain ⟨us, hus⟩ := ih fun u hu => hdata u (List.mem_cons_of_mem _ hu)
    exact ⟨_, hus.string (hdata _ (List.mem_cons_self ..) rfl)⟩
  | cast column _ ih =>
    -- the name in a cast stays whatever it says, for the search goes on behind it
    obtain ⟨us, hus⟩ := ih fun t ht => hdata t (by simp [ht])
    exact ⟨_, hus.cast column⟩

end Lite

end EntityStore
