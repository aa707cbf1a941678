import EntityStore.Text.Utf8
import Mathlib.Data.Nat.Find

/-!
# Cuts do not fall inside a character

The bytes of a text tell where its characters begin: the first byte of a character can be told from the others
(`exists_utf8EncodeChar_eq_cons`), whatever the width of the character.  The places that look like boundaries are
therefore those at which a text can be cut (`isBoundary_toUtf8`).  Going back from the limit finds the greatest of
them (`backOff_eq_findGreatest`), after three steps at most, and so the longest part in whole characters
(`Text.truncate_longest`).
-/

namespace EntityStore.Text

/-! ### The length of a text in bytes -/

theorem utf8Length_cons (c : Char) (t : Text) : utf8Length (c :: t) = c.utf8Size + utf8Length t := rfl

theorem toUtf8_cons (c : Char) (t : Text) : toUtf8 (c :: t) = String.utf8EncodeChar c ++ toUtf8 t :=
  List.flatMap_cons

theorem utf8Length_eq (t : Text) : t.utf8Length = t.toUtf8.length := by
  induction t with
  | nil => rfl
  | cons c t ih => rw [utf8Length_cons, ih, toUtf8_cons, List.length_append, String.length_utf8EncodeChar]

theorem utf8Length_append (t u : Text) : utf8Length (t ++ u) = t.utf8Length + u.utf8Length := by
  rw [utf8Length_eq, utf8Length_eq, utf8Length_eq, toUtf8, List.flatMap_append, List.length_append]
  rfl

theorem utf8Length_eq_zero_iff {t : Text} : t.utf8Length = 0 ↔ t = [] := by
  cases t with
  | nil => simp [utf8Length]
  | cons c t =>
    have hsize := c.utf8Size_pos
    simp only [utf8Length_cons, reduceCtorEq, iff_false]
    omega

/-- Of two parts at the start of a text, the one that takes no more bytes is at the start of the other. -/
theorem isPrefix_of_utf8Length_le {p q t : Text} (hp : p <+: t) (hq : q <+: t) (h : p.utf8Length ≤ q.utf8Length) :
    p <+: q := by
  rcases List.prefix_or_prefix_of_prefix hp hq with hpq | ⟨r, rfl⟩
  · exact hpq
  · rw [utf8Length_append] at h
    have hr : r = [] := utf8Length_eq_zero_iff.mp (by omega)
    simp only [hr, List.append_nil, List.prefix_rfl]

/-! ### Boundaries -/

private theorem beginsChar_ofNat {n : Nat} (h : n < 256) :
    beginsChar (UInt8.ofNat n) = decide (n < 0x80 ∨ 0xc0 ≤ n) := by
  have hn : (UInt8.ofNat n).toNat = n := UInt8.toNat_ofNat_of_lt' h
  simp [beginsChar, UInt8.lt_iff_toNat_lt, UInt8.le_iff_toNat_le, hn]

/-- The first byte of a character begins it, and no other byte of the character does. -/
private theorem exists_utf8EncodeChar_eq_cons (c : Char) :
    ∃ first others, String.utf8EncodeChar c = first :: others ∧ beginsChar first = true ∧
      ∀ byte ∈ others, beginsChar byte = false := by
  have hothers (ns : List Nat) :
      ∀ byte ∈ ns.map fun n => UInt8.ofNat (n % 64 + 128), beginsChar byte = false := by
    refine List.forall_mem_map.mpr fun n _ => ?_
    rw [beginsChar_ofNat (by omega), decide_eq_false_iff_not]
    omega
  have hfirst {n : Nat} (hn : n < 256) (h : n < 0x80 ∨ 0xc0 ≤ n) : beginsChar (UInt8.ofNat n) = true := by
    rw [beginsChar_ofNat hn, decide_eq_true h]
  -- a character has one to four bytes, by its number
  simp only [String.utf8EncodeChar]
  generalize c.val.toNat = n
  split
  · exact ⟨_, _, rfl, hfirst (by omega) (by omega), hothers []⟩
  split
  · exact ⟨_, _, rfl, hfirst (by omega) (by omega), hothers [n]⟩
  split
  · exact ⟨_, _, rfl, hfirst (by omega) (by omega), hothers [n / 64, n]⟩
  · exact ⟨_, _, rfl, hfirst (by omega) (by omega), hothers [n / 4096, n / 64, n]⟩

/-- The bytes of a text begin with the first byte of a character. -/
private theorem beginsChar_of_getElem?_zero {t : Text} {byte : UInt8} (h : t.toUtf8[0]? = some byte) :
    beginsChar byte = true := by
  cases t with
  | nil => simp [toUtf8] at h
  | cons c t =>
    obtain ⟨first, others, hc, hfirst, -⟩ := exists_utf8EncodeChar_eq_cons c
    rw [toUtf8_cons, hc, List.cons_append, List.getElem?_cons_zero] at h
    exact Option.some.inj h ▸ hfirst

/-- Behind a whole character stand the boundaries of the rest. -/
private theorem isBoundary_cons_of_le {c : Char} {t : Text} {index : Nat} (h : c.utf8Size ≤ index) :
    isBoundary (toUtf8 (c :: t)) index = isBoundary t.toUtf8 (index - c.utf8Size) := by
  have hsize := c.utf8Size_pos
  have hlength := String.length_utf8EncodeChar c
  have hbyte : (toUtf8 (c :: t))[index]? = t.toUtf8[index - c.utf8Size]? := by
    rw [toUtf8_cons, List.getElem?_append_right (by omega), hlength]
  have hbytes : (toUtf8 (c :: t)).length = c.utf8Size + t.toUtf8.length := by
    rw [toUtf8_cons, List.length_append, hlength]
  have hindex : (index == 0) = false := by simp; omega
  rw [isBoundary, isBoundary, hbyte, hbytes, hindex, Bool.false_or]
  cases hnext : t.toUtf8[index - c.utf8Size]? with
  | none =>
    rw [List.getElem?_eq_none_iff] at hnext
    rw [Bool.eq_iff_iff]
    simp only [beq_iff_eq, Bool.or_eq_true]
    omega
  | some byte =>
    dsimp only
    rw [Bool.eq_iff_iff, Bool.or_eq_true, beq_iff_eq]
    constructor
    · exact .inr
    · rintro (hzero | hbegins)
      · exact beginsChar_of_getElem?_zero (hzero ▸ hnext)
      · exact hbegins

/-- There is no boundary inside a character. -/
private theorem isBoundary_cons_of_lt {c : Char} {t : Text} {index : Nat} (hpos : 0 < index)
    (h : index < c.utf8Size) : isBoundary (toUtf8 (c :: t)) index = false := by
  obtain ⟨first, others, hc, -, hothers⟩ := exists_utf8EncodeChar_eq_cons c
  have hlength := String.length_utf8EncodeChar c
  obtain ⟨k, rfl⟩ : ∃ k, index = k + 1 := ⟨index - 1, by omega⟩
  rw [hc, List.length_cons] at hlength
  have hk : k < others.length := by omega
  have hbyte : (toUtf8 (c :: t))[k + 1]? = some others[k] := by
    rw [toUtf8_cons, hc, List.cons_append, List.getElem?_cons_succ, List.getElem?_append_left hk,
      List.getElem?_eq_getElem hk]
  rw [isBoundary, hbyte]
  simpa using hothers _ (List.getElem_mem hk)

/-! ### The characters in so many bytes -/

theorem firstBytes?_eq_some_iff {count : Nat} {t p : Text} :
    firstBytes? count t = some p ↔ p <+: t ∧ p.utf8Length = count := by
  fun_induction firstBytes? count t generalizing p with
  | case1 t =>
    rw [utf8Length_eq_zero_iff, Option.some.injEq, eq_comm, iff_and_self]
    rintro rfl
    exact List.nil_prefix
  | case2 count =>
    simp only [reduceCtorEq, List.prefix_nil, false_iff, not_and]
    rintro rfl
    exact (Nat.succ_ne_zero count).symm
  | case3 count c rest hsize ih =>
    simp only [Option.map_eq_some_iff, ih]
    constructor
    · rintro ⟨q, ⟨hq, hlength⟩, rfl⟩
      refine ⟨List.cons_prefix_cons.mpr ⟨rfl, hq⟩, ?_⟩
      rw [utf8Length_cons]
      omega
    · rintro ⟨hp, hlength⟩
      cases p with
      | nil => exact absurd hlength (Nat.succ_ne_zero count).symm
      | cons d q =>
        obtain ⟨rfl, hq⟩ := List.cons_prefix_cons.mp hp
        rw [utf8Length_cons] at hlength
        exact ⟨q, ⟨hq, by omega⟩, rfl⟩
  | case4 count c rest hsize =>
    simp only [reduceCtorEq, false_iff, not_and]
    intro hp hlength
    cases p with
    | nil => exact absurd hlength (Nat.succ_ne_zero count).symm
    | cons d q =>
      obtain ⟨rfl, -⟩ := List.cons_prefix_cons.mp hp
      rw [utf8Length_cons] at hlength
      omega

/-- The boundaries of the bytes are the places at which the text can be cut. -/
theorem isBoundary_toUtf8 (index : Nat) (t : Text) : isBoundary t.toUtf8 index = (firstBytes? index t).isSome := by
  fun_induction firstBytes? index t with
  | case1 t => rfl
  | case2 count => rfl
  | case3 count c rest hsize ih => rw [isBoundary_cons_of_le hsize, ih, Option.isSome_map]
  | case4 count c rest hsize => exact isBoundary_cons_of_lt (Nat.succ_pos count) (Nat.not_le.mp hsize)

theorem isBoundary_toUtf8_iff {index : Nat} {t : Text} :
    isBoundary t.toUtf8 index = true ↔ ∃ p : Text, p <+: t ∧ p.utf8Length = index := by
  simp only [isBoundary_toUtf8, Option.isSome_iff_exists, firstBytes?_eq_some_iff]

/-! ### Going back -/

/-- Going back from a place finds the greatest boundary that is not beyond it. -/
theorem backOff_eq_findGreatest (bytes : List UInt8) (index : Nat) :
    backOff bytes index = Nat.findGreatest (fun i => isBoundary bytes i = true) index := by
  induction index with
  | zero => rfl
  | succ index ih => rw [backOff, ih, Nat.findGreatest_succ]

theorem isBoundary_backOff (bytes : List UInt8) (index : Nat) : isBoundary bytes (backOff bytes index) = true := by
  rw [backOff_eq_findGreatest]
  exact Nat.findGreatest_spec (P := fun i => isBoundary bytes i = true) (Nat.zero_le index) rfl

theorem backOff_le (bytes : List UInt8) (index : Nat) : backOff bytes index ≤ index := by
  rw [backOff_eq_findGreatest]
  exact Nat.findGreatest_le index

theorem le_backOff {bytes : List UInt8} {i index : Nat} (hle : i ≤ index) (h : isBoundary bytes i = true) :
    i ≤ backOff bytes index := by
  rw [backOff_eq_findGreatest]
  exact Nat.le_findGreatest hle h

/-- Every place in a text has a boundary at most three bytes before it. -/
private theorem exists_prefix_near {limit : Nat} {t : Text} (h : limit ≤ t.utf8Length) :
    ∃ p : Text, p <+: t ∧ p.utf8Length ≤ limit ∧ limit ≤ p.utf8Length + 3 := by
  induction t generalizing limit with
  | nil => exact ⟨[], List.nil_prefix, Nat.zero_le limit, Nat.le_add_right_of_le h⟩
  | cons c t ih =>
    have hfour := c.utf8Size_le_four
    rw [utf8Length_cons] at h
    by_cases hsize : c.utf8Size ≤ limit
    · have hrest : limit - c.utf8Size ≤ utf8Length t := by omega
      obtain ⟨p, hp, hle, hnear⟩ := ih hrest
      refine ⟨c :: p, List.cons_prefix_cons.mpr ⟨rfl, hp⟩, ?_, ?_⟩ <;> rw [utf8Length_cons] <;> omega
    · exact ⟨[], List.nil_prefix, Nat.zero_le limit, by show limit ≤ 0 + 3; omega⟩

/-- Going back takes three steps at most. -/
theorem le_backOff_add_three {limit : Nat} {t : Text} (h : limit ≤ t.utf8Length) :
    limit ≤ backOff t.toUtf8 limit + 3 := by
  obtain ⟨p, hp, hle, hnear⟩ := exists_prefix_near h
  have hback := le_backOff hle (isBoundary_toUtf8_iff.mpr ⟨p, hp, rfl⟩)
  omega

/-! ### The cut -/

/-- A text that is cut to a number of bytes is left with its longest part in whole characters that takes no more of
them, which is all of it if it has no more.  The cut never falls inside a character, and the place of the cut is found
after three steps at most. -/
theorem truncate_longest (limit : Nat) (t : Text) :
    truncate? limit t = some (t.truncate limit) ∧
    (t.truncate limit <+: t ∧ (t.truncate limit).utf8Length ≤ limit ∧
      ∀ p : Text, p <+: t → p.utf8Length ≤ limit → p <+: t.truncate limit) ∧
    (t.utf8Length ≤ limit → t.truncate limit = t) ∧
    (limit < t.utf8Length → (t.truncate limit).utf8Length = backOff t.toUtf8 limit ∧
      limit ≤ backOff t.toUtf8 limit + 3) := by
  by_cases hfits : t.utf8Length ≤ limit
  · have hcut : truncate? limit t = some t := if_pos hfits
    have htext : t.truncate limit = t := by rw [truncate, hcut, Option.getD_some]
    rw [htext]
    exact ⟨hcut, ⟨List.prefix_rfl, hfits, fun p hp _ => hp⟩, fun _ => rfl, fun hlong => by omega⟩
  · obtain ⟨p, hp, hlength⟩ := isBoundary_toUtf8_iff.mp (isBoundary_backOff t.toUtf8 limit)
    have hcut : truncate? limit t = some p :=
      (if_neg hfits).trans (firstBytes?_eq_some_iff.mpr ⟨hp, hlength⟩)
    have htext : t.truncate limit = p := by rw [truncate, hcut, Option.getD_some]
    rw [htext]
    refine ⟨hcut, ⟨hp, ?_, fun q hq hqlimit => ?_⟩, fun hshort => absurd hshort hfits,
      fun hlong => ⟨hlength, le_backOff_add_three (Nat.le_of_lt hlong)⟩⟩
    · rw [hlength]
      exact backOff_le _ limit
    · refine isPrefix_of_utf8Length_le hq hp ?_
      rw [hlength]
      exact le_backOff hqlimit (isBoundary_toUtf8_iff.mpr ⟨q, hq, rfl⟩)

/-- Characters of two, three and four bytes: the last is dropped, though only one of its bytes is too many, and the
first is dropped if not even it has room. -/
theorem truncate_longest_widths :
    let t : Text := "é€😀".toList
    t.utf8Length = 9 ∧ t.truncate 8 = "é€".toList ∧ backOff t.toUtf8 8 = 5 ∧ t.truncate 1 = [] ∧ t.truncate 9 = t := by
  intro t
  obtain ⟨-, ⟨hpart, -, hlongest⟩, -, hback⟩ := truncate_longest 8 t
  obtain ⟨-, -, hwhole, -⟩ := truncate_longest 9 t
  refine ⟨rfl, ?_, by decide, by decide, hwhole (by decide)⟩
  have hfive := (hback (by decide)).1
  have hfits : "é€".toList <+: t.truncate 8 := hlongest _ (by decide) (by decide)
  exact (isPrefix_of_utf8Length_le hpart (by decide) (by rw [hfive]; decide)).eq_of_length_le hfits.length_le

end EntityStore.Text
