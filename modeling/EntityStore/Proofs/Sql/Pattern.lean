import EntityStore.Proofs.Text.Searching
import Mathlib.Data.List.Infix

/-!
# Patterns

The operand of LIKE is a pattern.  In it `%` stands for any characters, `_` for any one, and `[..]` for one character
of a set; every other character stands for itself, case aside, and so does a bracket that no other closes.
`Pattern.read` finds the parts of a pattern, and `Collation.accepts` says which texts they stand for.

A plain text, which has none of these signs, stands for itself alone (`Collation.accepts_plain_iff`).  If any other
text stands for something, then also for a text that is no longer and not itself
(`Collation.hasDeviation_of_accepts`).
-/

namespace EntityStore

/-! ### The parts of a pattern -/

/-- A part of a pattern. -/
inductive PatternPart where
  /-- Any characters, or none. -/
  | anyRun
  | anyChar
  /-- One character of the set that the text between two brackets says. -/
  | set (content : Text)
  | char (c : Char)

namespace Pattern

/-- The parts of a pattern in order. -/
def read : Text → List PatternPart
  | [] => []
  | '%' :: rest => .anyRun :: read rest
  | '_' :: rest => .anyChar :: read rest
  | '[' :: rest =>
    match _h : Text.splitFirst? [']'] rest with
    | some (content, after) => .set content :: read after
    | none => .char '[' :: read rest
  | c :: rest => .char c :: read rest
  termination_by t => t.length
  decreasing_by
    · simp
    · simp
    · have := congrArg List.length (Text.eq_append_of_splitFirst? _h)
      simp at this ⊢
      omega
    · simp
    · simp

theorem read_set {rest content after : Text} (h : Text.splitFirst? [']'] rest = some (content, after)) :
    read ('[' :: rest) = .set content :: read after := by
  rw [read]
  split
  · next content' after' heq =>
    obtain ⟨rfl, rfl⟩ := Prod.mk.inj (Option.some.inj (h.symm.trans heq))
    rfl
  · next heq => exact absurd (h.symm.trans heq) (Option.some_ne_none _)

theorem read_unclosed {rest : Text} (h : Text.splitFirst? [']'] rest = none) :
    read ('[' :: rest) = .char '[' :: read rest := by
  rw [read]
  split
  · next heq => simp [h] at heq
  · rfl

/-- A text in which every character stands for itself. -/
structure IsPlain (t : Text) : Prop where
  percent_notMem : '%' ∉ t
  underscore_notMem : '_' ∉ t
  not_closed : ∀ before content, t = before ++ '[' :: content → ']' ∉ content

theorem isPlain_nil : IsPlain [] := by
  refine ⟨List.not_mem_nil, List.not_mem_nil, fun before content h => ?_⟩
  simp at h

theorem isPlain_cons_iff {c : Char} {t : Text} :
    IsPlain (c :: t) ↔ c ≠ '%' ∧ c ≠ '_' ∧ (c = '[' → ']' ∉ t) ∧ IsPlain t := by
  constructor
  · rintro ⟨hpercent, hunderscore, hclosed⟩
    rw [List.mem_cons, not_or] at hpercent hunderscore
    refine ⟨Ne.symm hpercent.1, Ne.symm hunderscore.1, fun hc => hclosed [] t (by rw [hc, List.nil_append]),
      hpercent.2, hunderscore.2, fun before content heq => ?_⟩
    exact hclosed (c :: before) content (by rw [heq, List.cons_append])
  · rintro ⟨hpercent, hunderscore, hbracket, ht⟩
    refine ⟨?_, ?_, fun before content heq => ?_⟩
    · rw [List.mem_cons, not_or]
      exact ⟨Ne.symm hpercent, ht.percent_notMem⟩
    · rw [List.mem_cons, not_or]
      exact ⟨Ne.symm hunderscore, ht.underscore_notMem⟩
    · cases before with
      | nil =>
        obtain ⟨rfl, rfl⟩ := List.cons.inj heq
        exact hbracket rfl
      | cons d before =>
        obtain ⟨rfl, rfl⟩ := List.cons.inj heq
        exact ht.not_closed before content rfl

/-- The parts of a plain text are its characters. -/
theorem read_of_isPlain {t : Text} (h : IsPlain t) : read t = t.map .char := by
  fun_induction read t with
  | case1 => rfl
  | case2 rest => exact absurd rfl (isPlain_cons_iff.mp h).1
  | case3 rest => exact absurd rfl (isPlain_cons_iff.mp h).2.1
  | case4 rest content after hsplit =>
    have hrest := (isPlain_cons_iff.mp h).2.2.1 rfl
    rw [Text.splitFirst?_singleton_eq_none_iff.mpr hrest] at hsplit
    simp at hsplit
  | case5 rest hsplit ih => rw [ih (isPlain_cons_iff.mp h).2.2.2, List.map_cons]
  | case6 c rest hpercent hunderscore hbracket ih => rw [ih (isPlain_cons_iff.mp h).2.2.2, List.map_cons]

/-- A wildcard after a pattern is a part of its own: it closes no bracket. -/
theorem read_append_percent (t : Text) : read (t ++ ['%']) = read t ++ [.anyRun] := by
  fun_induction read t with
  | case1 => simp [read]
  | case2 rest ih => rw [List.cons_append, read, ih, List.cons_append]
  | case3 rest ih => rw [List.cons_append, read, ih, List.cons_append]
  | case4 rest content after hsplit ih =>
    obtain ⟨rfl, hcontent⟩ := Text.splitFirst?_singleton_eq_some_iff.mp hsplit
    have hsplit' : Text.splitFirst? [']'] (content ++ ']' :: after ++ ['%']) = some (content, after ++ ['%']) :=
      Text.splitFirst?_singleton_eq_some_iff.mpr ⟨by simp, hcontent⟩
    rw [List.cons_append, read_set hsplit', ih, List.cons_append]
  | case5 rest hsplit ih =>
    have hsplit' : Text.splitFirst? [']'] (rest ++ ['%']) = none := by
      rw [Text.splitFirst?_singleton_eq_none_iff] at hsplit ⊢
      simpa using hsplit
    rw [List.cons_append, read_unclosed hsplit', ih, List.cons_append]
  | case6 c rest hpercent hunderscore hbracket ih =>
    rw [List.cons_append, read, ih, List.cons_append]
    · exact hpercent
    · exact hunderscore
    · exact hbracket

end Pattern

/-! ### The texts that a pattern stands for -/

/-- How a database compares characters. -/
structure Collation where
  /-- What a character is, case aside. -/
  fold : Char → Char
  /-- Whether a character belongs to the set that the text between two brackets says. -/
  inSet : Text → Char → Bool
  exists_fold_ne : ∃ c, fold c ≠ fold '_'

namespace Collation

/-- Whether a character is among characters and ranges of characters. -/
def inRanges (fold : Char → Char) (c : Char) : Text → Bool
  | low :: '-' :: high :: rest => (fold low ≤ fold c && fold c ≤ fold high) || inRanges fold c rest
  | d :: rest => fold d == fold c || inRanges fold c rest
  | [] => false

/-- Characters compared by their code, but for the case of ASCII letters. -/
def ignoringCase : Collation where
  fold := Char.toLower
  inSet content c :=
    match content with
    | '^' :: content => !inRanges Char.toLower c content
    | content => inRanges Char.toLower c content
  exists_fold_ne := ⟨'a', by decide⟩

/-- Whether a part of a pattern can stand for a single character. -/
def admits (κ : Collation) (c : Char) : PatternPart → Bool
  | .anyRun => true
  | .anyChar => true
  | .set content => κ.inSet content c
  | .char d => κ.fold d == κ.fold c

/-- Whether parts of a pattern stand for a text. -/
def accepts (κ : Collation) : List PatternPart → Text → Bool
  | [], s => s.isEmpty
  | .anyRun :: ps, s => s.tails.any (κ.accepts ps)
  | _ :: _, [] => false
  | p :: ps, c :: s => κ.admits c p && κ.accepts ps s

variable {κ : Collation} {ps : List PatternPart} {s : Text}

theorem accepts_nil_iff : κ.accepts [] s = true ↔ s = [] :=
  List.isEmpty_iff

theorem accepts_anyRun_iff : κ.accepts (.anyRun :: ps) s = true ↔ ∃ t, t <:+ s ∧ κ.accepts ps t = true := by
  rw [accepts, List.any_eq_true]
  exact exists_congr fun t => and_congr_left' (List.mem_tails t s)

theorem accepts_cons_iff {p : PatternPart} (hp : p ≠ .anyRun) :
    κ.accepts (p :: ps) s = true ↔ ∃ c t, s = c :: t ∧ κ.admits c p = true ∧ κ.accepts ps t = true := by
  cases s with
  | nil => cases p <;> simp_all [accepts]
  | cons c s =>
    have hcons : κ.accepts (p :: ps) (c :: s) = (κ.admits c p && κ.accepts ps s) := by
      cases p <;> first | rfl | exact absurd rfl hp
    rw [hcons, Bool.and_eq_true]
    constructor
    · rintro ⟨hc, hs⟩
      exact ⟨c, s, rfl, hc, hs⟩
    · rintro ⟨d, t, heq, hd, ht⟩
      obtain ⟨rfl, rfl⟩ := List.cons.inj heq
      exact ⟨hd, ht⟩

/-- A wildcard at the end takes what the parts before it leave. -/
theorem accepts_append_anyRun_iff :
    κ.accepts (ps ++ [.anyRun]) s = true ↔ ∃ t, t <+: s ∧ κ.accepts ps t = true := by
  induction ps generalizing s with
  | nil =>
    refine iff_of_true ?_ ⟨[], List.nil_prefix, rfl⟩
    exact accepts_anyRun_iff.mpr ⟨[], List.nil_suffix, rfl⟩
  | cons p ps ih =>
    rw [List.cons_append]
    by_cases hp : p = .anyRun
    · subst hp
      rw [accepts_anyRun_iff]
      simp only [ih, accepts_anyRun_iff]
      -- both sides say that the parts stand for some text inside
      constructor
      · rintro ⟨t, ht, u, hu, haccepts⟩
        obtain ⟨w, hw, hws⟩ := List.infix_iff_suffix_prefix.mp (List.infix_iff_prefix_suffix.mpr ⟨t, hu, ht⟩)
        exact ⟨w, hws, u, hw, haccepts⟩
      · rintro ⟨t, ht, u, hu, haccepts⟩
        obtain ⟨w, hw, hws⟩ := List.infix_iff_prefix_suffix.mp (List.infix_iff_suffix_prefix.mpr ⟨t, hu, ht⟩)
        exact ⟨w, hws, u, hw, haccepts⟩
    · rw [accepts_cons_iff hp]
      constructor
      · rintro ⟨c, t, rfl, hc, ht⟩
        obtain ⟨u, hu, haccepts⟩ := ih.mp ht
        exact ⟨c :: u, List.cons_prefix_cons.mpr ⟨rfl, hu⟩, (accepts_cons_iff hp).mpr ⟨c, u, rfl, hc, haccepts⟩⟩
      · rintro ⟨t, ht, haccepts⟩
        obtain ⟨c, u, rfl, hc, hu⟩ := (accepts_cons_iff hp).mp haccepts
        obtain ⟨r, rfl⟩ := ht
        exact ⟨c, u ++ r, rfl, hc, ih.mpr ⟨u, List.prefix_append u r, hu⟩⟩

theorem accepts_chars_iff {t : Text} :
    κ.accepts (t.map .char) s = true ↔ t.map κ.fold = s.map κ.fold := by
  induction t generalizing s with
  | nil =>
    rw [List.map_nil, accepts_nil_iff]
    simp
  | cons d t ih =>
    rw [List.map_cons, accepts_cons_iff (by simp)]
    cases s with
    | nil => simp
    | cons c s => simp [admits, ih]

/-- A plain text stands for itself alone, case aside. -/
theorem accepts_plain_iff {t : Text} (h : Pattern.IsPlain t) :
    κ.accepts (Pattern.read t) s = true ↔ t.map κ.fold = s.map κ.fold := by
  rw [Pattern.read_of_isPlain h, accepts_chars_iff]

private theorem exists_accepts_of_cons {p : PatternPart} (h : ∃ s, κ.accepts (p :: ps) s = true) :
    ∃ s, κ.accepts ps s = true := by
  obtain ⟨s, hs⟩ := h
  by_cases hp : p = .anyRun
  · subst hp
    obtain ⟨u, -, hu⟩ := accepts_anyRun_iff.mp hs
    exact ⟨u, hu⟩
  · obtain ⟨c, u, -, -, hu⟩ := (accepts_cons_iff hp).mp hs
    exact ⟨u, hu⟩

/-- A pattern stands for a text that is no longer than the pattern, and that differs from it unless the pattern is
plain. -/
def HasDeviation (κ : Collation) (t : Text) : Prop :=
  ∃ s, κ.accepts (Pattern.read t) s = true ∧ s.length ≤ t.length ∧ (t.map κ.fold = s.map κ.fold → Pattern.IsPlain t)

/-- A character that stands for itself is put before what the rest stands for. -/
private theorem HasDeviation.cons_char {c : Char} {rest : Text} (h : κ.HasDeviation rest)
    (hread : Pattern.read (c :: rest) = .char c :: Pattern.read rest)
    (hplain : Pattern.IsPlain rest → Pattern.IsPlain (c :: rest)) : κ.HasDeviation (c :: rest) := by
  obtain ⟨w, hw, hle, hrest⟩ := h
  refine ⟨c :: w, ?_, Nat.succ_le_succ hle, fun heq => hplain (hrest (List.cons.inj heq).2)⟩
  rw [hread, accepts_cons_iff (by simp)]
  exact ⟨c, w, rfl, by simp [admits], hw⟩

/-- A text that is shorter than the pattern differs from it. -/
private theorem hasDeviation_of_length_lt {t : Text} (hs : κ.accepts (Pattern.read t) s = true)
    (hlength : s.length < t.length) : κ.HasDeviation t := by
  refine ⟨s, hs, Nat.le_of_lt hlength, fun heq => ?_⟩
  have hlengths := congrArg List.length heq
  simp only [List.length_map] at hlengths
  omega

/-- A pattern that stands for a text at all stands for one that is no longer and not itself, unless it is plain. -/
theorem hasDeviation_of_accepts {t : Text} (h : ∃ s, κ.accepts (Pattern.read t) s = true) : κ.HasDeviation t := by
  fun_induction Pattern.read t with
  | case1 =>
    refine ⟨[], ?_, Nat.le_refl 0, fun _ => Pattern.isPlain_nil⟩
    rw [Pattern.read, accepts_nil_iff]
  | case2 rest ih =>
    -- a run of characters may be empty
    obtain ⟨w, hw, hle, -⟩ := ih (exists_accepts_of_cons h)
    apply hasDeviation_of_length_lt (s := w)
    · rw [Pattern.read]
      exact accepts_anyRun_iff.mpr ⟨w, List.suffix_rfl, hw⟩
    · exact Nat.lt_succ_of_le hle
  | case3 rest ih =>
    -- any character will do, so that another can be taken
    obtain ⟨w, hw, hle, -⟩ := ih (exists_accepts_of_cons h)
    obtain ⟨d, hd⟩ := κ.exists_fold_ne
    refine ⟨d :: w, ?_, Nat.succ_le_succ hle, fun heq => absurd (List.cons.inj heq).1.symm hd⟩
    rw [Pattern.read, accepts_cons_iff (by simp)]
    exact ⟨d, w, rfl, rfl, hw⟩
  | case4 rest content after hsplit ih =>
    -- a set is written with two brackets and stands for one character
    obtain ⟨w, hw, hle, -⟩ := ih (exists_accepts_of_cons h)
    obtain ⟨s, hs⟩ := h
    obtain ⟨c, -, -, hc, -⟩ := (accepts_cons_iff (by simp)).mp hs
    have hrest := congrArg List.length (Text.eq_append_of_splitFirst? hsplit)
    simp only [List.length_append, List.length_singleton] at hrest
    apply hasDeviation_of_length_lt (s := c :: w)
    · rw [Pattern.read_set hsplit, accepts_cons_iff (by simp)]
      exact ⟨c, w, rfl, hc, hw⟩
    · simp only [List.length_cons]
      omega
  | case5 rest hsplit ih =>
    apply (ih (exists_accepts_of_cons h)).cons_char (Pattern.read_unclosed hsplit)
    intro hrest
    rw [Pattern.isPlain_cons_iff]
    exact ⟨by decide, by decide, fun _ => Text.splitFirst?_singleton_eq_none_iff.mp hsplit, hrest⟩
  | case6 c rest hpercent hunderscore hbracket ih =>
    apply (ih (exists_accepts_of_cons h)).cons_char (by rw [Pattern.read] <;> assumption)
    intro hrest
    rw [Pattern.isPlain_cons_iff]
    exact ⟨hpercent, hunderscore, fun hc => absurd hc hbracket, hrest⟩

end Collation

end EntityStore
