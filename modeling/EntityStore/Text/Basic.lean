/-!
# Text

A text is the list of its characters.  Quoting, searching and reading are then recursions on the list, and what
they do to a text can be stated for one character and the rest.  This module holds the operations that are about
no particular notation: joining, splitting at a mark, replacing, and comparison without regard to ASCII case.
-/

namespace EntityStore

/-- A text: its characters in order. -/
abbrev Text := List Char

namespace Text

/-- The given texts in order, with the separator between neighbours. -/
def joinWith (separator : Text) : List Text → Text
  | [] => []
  | [t] => t
  | t :: u :: rest => t ++ separator ++ joinWith separator (u :: rest)

/-- What stands after a mark at the start of the text, if it starts with the mark. -/
def dropMark? : Text → Text → Option Text
  | [], t => some t
  | _ :: _, [] => none
  | m :: mark, c :: t => if m = c then dropMark? mark t else none

/-- What stands before and after the first occurrence of a mark. -/
def splitFirst? (mark : Text) : Text → Option (Text × Text)
  | [] => (dropMark? mark []).map fun after => ([], after)
  | c :: rest =>
    match dropMark? mark (c :: rest) with
    | some after => some ([], after)
    | none => (splitFirst? mark rest).map fun (before, after) => (c :: before, after)

/-- Replacement with a countdown of the characters that belong to the occurrence just replaced. -/
def replaceFrom (mark replacement : Text) : Nat → Text → Text
  | _, [] => []
  | skip + 1, _ :: rest => replaceFrom mark replacement skip rest
  | 0, c :: rest =>
    if (dropMark? mark (c :: rest)).isSome then
      replacement ++ replaceFrom mark replacement (mark.length - 1) rest
    else
      c :: replaceFrom mark replacement 0 rest

/-- Replaces every occurrence of a non-empty mark, from the left and without overlap. -/
def replaceAll (mark replacement : Text) (t : Text) : Text :=
  replaceFrom mark replacement 0 t

/-- Whether the mark stands somewhere in the text. -/
def occursIn (mark : Text) : Text → Bool
  | [] => mark.isEmpty
  | c :: rest => (dropMark? mark (c :: rest)).isSome || occursIn mark rest

/-- The text with every ASCII capital made small. -/
def toAsciiLower (t : Text) : Text :=
  t.map Char.toLower

/-- Equality of two texts up to the case of ASCII letters. -/
def equalIgnoringCase (t u : Text) : Bool :=
  t.toAsciiLower == u.toAsciiLower

theorem dropMark?_eq_some_iff {mark t after : Text} : dropMark? mark t = some after ↔ t = mark ++ after := by
  fun_induction dropMark? mark t with
  | case1 => simp [eq_comm]
  | case2 => simp
  | case3 m mark t ih => simp [ih]
  | case4 m mark c t h => simp [Ne.symm h]

theorem eq_append_of_splitFirst? {mark t before after : Text} (h : splitFirst? mark t = some (before, after)) :
    t = before ++ mark ++ after := by
  induction t generalizing before with
  | nil =>
    obtain ⟨rest, hrest, heq⟩ := Option.map_eq_some_iff.mp h
    rw [dropMark?_eq_some_iff] at hrest
    grind
  | cons c t ih =>
    unfold splitFirst? at h
    split at h
    · next rest hrest =>
      rw [dropMark?_eq_some_iff] at hrest
      grind
    · obtain ⟨⟨b, a⟩, hsplit, heq⟩ := Option.map_eq_some_iff.mp h
      grind

theorem isSome_dropMark?_iff {mark t : Text} : (dropMark? mark t).isSome = true ↔ mark <+: t := by
  rw [Option.isSome_iff_exists]
  exact exists_congr fun after => dropMark?_eq_some_iff.trans eq_comm

theorem occursIn_iff {mark t : Text} : occursIn mark t = true ↔ mark <:+: t := by
  induction t with
  | nil => simp [occursIn]
  | cons c rest ih => simp [occursIn, ih, isSome_dropMark?_iff, List.infix_cons_iff]

end Text

end EntityStore
