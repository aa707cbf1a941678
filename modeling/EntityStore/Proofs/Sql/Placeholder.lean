import EntityStore.Proofs.Sql.Token
import EntityStore.Text.LetterCase

/-!
# Places of a statement

A statement names the places of its values itself: an at sign and all the letters, digits and underscores behind it,
outside of names and string literals.  `Token.placeholders?` finds them.  A place that was put into a statement is
found as it was put there if it is an at sign and a word (`Token.follows_place`); no other text is ever found
(`Token.isPlace_of_mem_placeholders?`).
-/

namespace EntityStore

/-- Whether a character is a letter, a digit or an underscore. -/
def isWordChar (c : Char) : Bool :=
  isAlphanumeric c || c == '_'

/-- Whether a text is an at sign with letters, digits and underscores behind it. -/
def isPlace : Text → Bool
  | '@' :: word => word.all isWordChar
  | _ => false

namespace Token

/-- The letters, digits and underscores at the start of tokens. -/
def leadingWord : List Token → Text
  | char c :: ts => if isWordChar c then c :: leadingWord ts else []
  | _ => []

/-- The places among tokens. -/
def placeholders : List Token → List Text
  | [] => []
  | char c :: ts => if c = '@' then ('@' :: leadingWord ts) :: placeholders ts else placeholders ts
  | _ :: ts => placeholders ts

/-- The places of a statement; there are none to be found if a name or a literal does not end. -/
def placeholders? (sql : Text) : Option (List Text) :=
  (scan? sql).map placeholders

theorem isWordChar_leadingWord (ts : List Token) : (leadingWord ts).all isWordChar = true := by
  induction ts with
  | nil => rfl
  | cons t ts ih =>
    cases t with
    | char c => by_cases hc : isWordChar c = true <;> simp [leadingWord, hc, ih]
    | _ => rfl

private theorem isPlace_of_mem_placeholders {ts : List Token} {place : Text} (h : place ∈ placeholders ts) :
    isPlace place = true := by
  induction ts with
  | nil => simp [placeholders] at h
  | cons t ts ih =>
    cases t with
    | char c =>
      rw [placeholders] at h
      split at h
      · rcases List.mem_cons.mp h with rfl | h
        · exact isWordChar_leadingWord ts
        · exact ih h
      · exact ih h
    | _ => exact ih h

/-- Whatever is found is a place. -/
theorem isPlace_of_mem_placeholders? {sql : Text} {places : List Text} (h : placeholders? sql = some places)
    {place : Text} (hmem : place ∈ places) : isPlace place = true := by
  obtain ⟨ts, -, rfl⟩ := Option.map_eq_some_iff.mp h
  exact isPlace_of_mem_placeholders hmem

/-! ### Statements that were put together -/

/-- Whether a character opens no name and no literal and starts no place. -/
def isPlainChar (c : Char) : Bool :=
  c != '[' && c != '\'' && c != '@'

theorem isPlainChar_iff {c : Char} : isPlainChar c = true ↔ c ≠ '[' ∧ c ≠ '\'' ∧ c ≠ '@' := by
  simp [isPlainChar, and_assoc]

/-- Neither brackets nor quotes are part of a word, nor is what stands around the places of a statement. -/
theorem isWordChar_mark {c : Char} (h : c ∈ "@[]',. )".toList) : isWordChar c = false := by
  have hmarks : ("@[]',. )".toList.all fun c => !isWordChar c) = true := by
    decide +kernel
  simpa using List.all_eq_true.mp hmarks c h

private theorem isPlainChar_of_isWordChar {c : Char} (h : isWordChar c = true) : isPlainChar c = true := by
  have hne {d : Char} (hd : d ∈ "@[]',. )".toList) : c ≠ d := by
    rintro rfl
    rw [isWordChar_mark hd] at h
    exact absurd h (by decide)
  exact isPlainChar_iff.mpr ⟨hne (by decide), hne (by decide), hne (by decide)⟩

private theorem all_isPlainChar {word : Text} (h : word.all isWordChar = true) : word.all isPlainChar = true :=
  List.all_eq_true.mpr fun c hc => isPlainChar_of_isWordChar (List.all_eq_true.mp h c hc)

theorem placeholders?_nil : placeholders? [] = some [] := by
  rw [placeholders?, scan?]
  rfl

theorem placeholders?_bracket (name : Text) {after : Text} (h : after.head? ≠ some ']') :
    placeholders? (name.bracket ++ after) = placeholders? after := by
  rw [placeholders?, scan?_bracket h, Option.map_map]
  rfl

theorem placeholders?_cons {c : Char} (h : isPlainChar c = true) (after : Text) :
    placeholders? (c :: after) = placeholders? after := by
  obtain ⟨hbracket, hquote, hat⟩ := isPlainChar_iff.mp h
  rw [placeholders?, scan?_char hbracket hquote, Option.map_map]
  refine congrArg (Option.map · _) (funext fun ts => ?_)
  rw [Function.comp_apply, placeholders, if_neg hat]

theorem placeholders?_append {t : Text} (h : t.all isPlainChar = true) (after : Text) :
    placeholders? (t ++ after) = placeholders? after := by
  induction t with
  | nil => rfl
  | cons c t ih =>
    rw [List.all_cons, Bool.and_eq_true] at h
    rw [List.cons_append, placeholders?_cons h.1, ih h.2]

/-- The word that the tokens of a text start with is at the start of the text itself. -/
private theorem leadingWord_of_scan? {word after : Text} (hword : word.all isWordChar = true)
    (hafter : ∀ c ∈ after.head?, isWordChar c = false) {ts : List Token} (h : scan? (word ++ after) = some ts) :
    leadingWord ts = word := by
  induction word generalizing ts with
  | nil =>
    cases ts with
    | nil => rfl
    | cons t ts =>
      rw [List.nil_append] at h
      rw [← spell_of_scan? h] at hafter
      cases t with
      | char c =>
        have hc : isWordChar c = false := hafter c (by simp [text])
        simp [leadingWord, hc]
      | _ => rfl
  | cons c word ih =>
    rw [List.all_cons, Bool.and_eq_true] at hword
    obtain ⟨hbracket, hquote, -⟩ := isPlainChar_iff.mp (isPlainChar_of_isWordChar hword.1)
    rw [List.cons_append, scan?_char hbracket hquote] at h
    obtain ⟨us, hscan, rfl⟩ := Option.map_eq_some_iff.mp h
    rw [leadingWord, if_pos hword.1, ih hword.2 hscan]

/-! ### Texts behind others -/

/-- A text neither goes on with a word nor closes a name once more. -/
def Stops (t : Text) : Prop :=
  ∀ c ∈ t.head?, isWordChar c = false ∧ c ≠ ']'

theorem stops_nil : Stops [] := by
  simp [Stops]

theorem stops_cons {c : Char} (h : c ∈ "@[]',. )".toList) (hne : c ≠ ']') (t : Text) : Stops (c :: t) := by
  intro d hd
  obtain rfl := Option.some.inj hd
  exact ⟨isWordChar_mark h, hne⟩

theorem Stops.append {t u : Text} (ht : Stops t) (hu : Stops u) : Stops (t ++ u) := by
  cases t with
  | nil => exact hu
  | cons c t => exact ht

/-- The places of a text are found in front of every text that stops it. -/
def HasPlaces (t : Text) (places : List Text) : Prop :=
  ∀ after, Stops after → placeholders? (t ++ after) = (placeholders? after).map (places ++ ·)

/-- A text with places that stops every text in front of it. -/
structure Follows (t : Text) (places : List Text) : Prop where
  stops : Stops t
  hasPlaces : HasPlaces t places

theorem HasPlaces.placeholders? {t : Text} {places : List Text} (h : HasPlaces t places) :
    placeholders? t = some places := by
  simpa [placeholders?_nil] using h [] stops_nil

theorem HasPlaces.append {t u : Text} {places more : List Text} (ht : HasPlaces t places) (hu : Follows u more) :
    HasPlaces (t ++ u) (places ++ more) := by
  intro after hafter
  rw [List.append_assoc, ht _ (hu.stops.append hafter), hu.hasPlaces _ hafter, Option.map_map]
  simp only [Function.comp_def, List.append_assoc]

theorem Follows.append {t u : Text} {places more : List Text} (ht : Follows t places) (hu : Follows u more) :
    Follows (t ++ u) (places ++ more) :=
  ⟨ht.stops.append hu.stops, ht.hasPlaces.append hu⟩

theorem follows_nil : Follows [] [] := by
  refine ⟨stops_nil, fun after hafter => ?_⟩
  simp

theorem follows_bracket (name : Text) : Follows name.bracket [] := by
  refine ⟨stops_cons (by decide) (by decide) _, fun after hafter => ?_⟩
  have hnext : after.head? ≠ some ']' := fun h => (hafter ']' h).2 rfl
  simp [placeholders?_bracket name hnext]

theorem hasPlaces_plain {t : Text} (h : t.all isPlainChar = true) : HasPlaces t [] := by
  intro after hafter
  simp [placeholders?_append h]

/-- A mark with plain characters behind it. -/
theorem follows_mark {c : Char} {t : Text} (hmark : c ∈ ",. )".toList) (h : (c :: t).all isPlainChar = true) :
    Follows (c :: t) [] := by
  have hmarks : c ∈ "@[]',. )".toList ∧ c ≠ ']' := by
    simp only [String.reduceToList, List.mem_cons, List.not_mem_nil, or_false] at hmark
    rcases hmark with rfl | rfl | rfl | rfl <;> decide
  exact ⟨stops_cons hmarks.1 hmarks.2 t, hasPlaces_plain h⟩

/-- A place is found as it is. -/
theorem follows_place {place : Text} (hplace : isPlace place = true) : Follows place [place] := by
  unfold isPlace at hplace
  split at hplace
  · next word =>
    refine ⟨stops_cons (by decide) (by decide) _, fun after hafter => ?_⟩
    have hwords : Token.placeholders? (word ++ after) = Token.placeholders? after :=
      placeholders?_append (all_isPlainChar hplace) after
    rw [← hwords, Token.placeholders?, Token.placeholders?, List.cons_append, scan?_char (by decide) (by decide),
      Option.map_map, Option.map_map]
    refine Option.map_congr fun ts hts => ?_
    rw [Function.comp_apply, placeholders, if_pos rfl, leadingWord_of_scan? hplace (fun c hc => (hafter c hc).1) hts]
    rfl
  · exact absurd hplace (by decide)

/-- The places of texts with a separator between them are those of all texts in order. -/
theorem follows_joinWith {α : Type} {separator : Text} (hseparator : Follows separator []) {text : α → Text}
    {places : α → List Text} {items : List α} (h : ∀ a ∈ items, Follows (text a) (places a)) :
    Follows (Text.joinWith separator (items.map text)) (items.flatMap places) := by
  induction items with
  | nil => exact follows_nil
  | cons a rest ih =>
    obtain ⟨ha, hrest⟩ := List.forall_mem_cons.mp h
    cases rest with
    | nil => simpa [Text.joinWith] using ha
    | cons b rest =>
      have hjoined := (ha.append hseparator).append (ih hrest)
      rwa [List.append_nil] at hjoined

/-- Texts without places, with a separator between them. -/
theorem follows_joinWith_nil {α : Type} {separator : Text} (hseparator : Follows separator []) {text : α → Text}
    (h : ∀ a, Follows (text a) []) (items : List α) : Follows (Text.joinWith separator (items.map text)) [] := by
  have hjoined : Follows (Text.joinWith separator (items.map text)) (items.flatMap fun _ => []) :=
    follows_joinWith hseparator fun a _ => h a
  rwa [List.flatMap_eq_nil_iff.mpr fun _ _ => rfl] at hjoined

end Token

end EntityStore
