import EntityStore.Proofs.Query.ClauseFailure
import EntityStore.Proofs.Sql.Nesting
import EntityStore.Proofs.Sql.ValueComment
import EntityStore.Proofs.Value.Leaf

/-!
# Batches of literals

A list of values is written as batches, each of them literals with commas between them.  `Literal.readList?` reads one
batch by the lexical rules of statements, so that commas, spaces and quotes inside a string literal belong to the
literal.  Reading the batches one after the other gives the literals of all leaves in order, and all batches are full
except perhaps the last (`Value.literalBatches_list`).  If some leaf has no literal then there are no batches at all,
and the leftmost such leaf says why.
-/

namespace EntityStore

/-- Reads literals with commas between them. -/
def Literal.readList? (t : Text) : Option (List Literal) :=
  (readWords? (fun _ => ()) t).bind Piece.literals?

theorem Literal.readList?_spell {ls : List Literal} (h : ls ≠ []) :
    readList? (Token.spell (listTokens ls)) = some ls := by
  obtain ⟨ws, hspells, hread⟩ := spells_listTokens (g := fun _ => ()) h
  rw [readList?, hspells.readWords? (separated_listTokens ls), Option.bind_some, hread]

example : Literal.readList? "1, 'a, ''b', -2.5".toList =
    some [.number ⟨"1".toList, by decide⟩, .string "a, 'b".toList, .number ⟨"-2.5".toList, by decide⟩] := by cbv

/-- Texts that are read as lists of literals, none of which is empty and all of which are full except perhaps the
last. -/
structure ReadInBatches (batches : List Text) (lists : List (List Literal)) : Prop where
  read_eq : batches.map Literal.readList? = lists.map some
  length_pos : ∀ ls ∈ lists, 1 ≤ ls.length
  length_le : ∀ ls ∈ lists, ls.length ≤ 2000
  length_full : ∀ ls ∈ lists.dropLast, ls.length = 2000

/-! ### Pieces of a list -/

section Pieces

variable {α : Type} {size : Nat} {l piece : List α}

private theorem length_le_of_mem_cutAfter (h : piece ∈ cutAfter size l) : piece.length ≤ size + 1 := by
  fun_induction cutAfter size l with
  | case1 => simp at h
  | case2 a rest ih =>
    rcases List.mem_cons.mp h with rfl | h
    · rw [List.length_cons, List.length_take]
      omega
    · exact ih h

private theorem length_eq_of_mem_dropLast_cutAfter (h : piece ∈ (cutAfter size l).dropLast) :
    piece.length = size + 1 := by
  fun_induction cutAfter size l with
  | case1 => simp at h
  | case2 a rest ih =>
    -- a piece that others follow has taken all that it may take
    by_cases hrest : rest.drop size = []
    · rw [hrest, cutAfter] at h
      simp at h
    · have hfollowed : cutAfter size (rest.drop size) ≠ [] := by
        intro hnil
        have hflatten := flatten_cutAfter size (rest.drop size)
        rw [hnil] at hflatten
        exact hrest hflatten.symm
      rw [List.dropLast_cons_of_ne_nil hfollowed] at h
      rcases List.mem_cons.mp h with rfl | h
      · rw [List.drop_eq_nil_iff] at hrest
        rw [List.length_cons, List.length_take]
        omega
      · exact ih h

/-- A list is cut into as few pieces as their size allows. -/
theorem length_cutAfter (size : Nat) (l : List α) : (cutAfter size l).length = (l.length + size) / (size + 1) := by
  fun_induction cutAfter size l with
  | case1 =>
    have hnone : (0 + size) / (size + 1) = 0 := Nat.div_eq_of_lt (by omega)
    exact hnone.symm
  | case2 a rest ih =>
    have hsum : rest.length + 1 + size = rest.length + (size + 1) := by omega
    have hpos : 0 < size + 1 := by omega
    rw [List.length_cons, ih, List.length_drop, List.length_cons, hsum, Nat.add_div_right _ hpos]
    -- of a short list nothing is left for a second piece
    by_cases hshort : rest.length ≤ size
    · have hleft : (rest.length - size + size) / (size + 1) = rest.length / (size + 1) := by
        rw [Nat.sub_eq_zero_of_le hshort, Nat.div_eq_of_lt (by omega), Nat.div_eq_of_lt (by omega)]
      omega
    · have hleft : rest.length - size + size = rest.length := by omega
      rw [hleft]

end Pieces

/-! ### What the batches are read as -/

/-- Two literals that are written alike and say the same are the same. -/
private theorem Literal.eq_of_text {l l' : Literal} (htext : l.text = l'.text) (hcontent : l.content = l'.content) :
    l = l' := by
  have hquote (t : Text) (n : Numeral) : t.quote ≠ n.text := by
    intro h
    have hmem : '\'' ∈ n.text := by
      rw [← h, Text.quote]
      exact List.mem_cons_self ..
    exact absurd (n.isNumeralChar_of_mem _ hmem) (by decide)
  cases l with
  | string t =>
    cases l' with
    | string t' => exact congrArg Literal.string hcontent
    | number n' => exact absurd htext (hquote t n')
  | number n =>
    cases l' with
    | string t' => exact absurd htext.symm (hquote t' n)
    | number n' =>
      cases n
      cases n'
      cases htext
      rfl

namespace Value

/-- A literal is the one that a value stands for: it is written for the value, and it says the text of the value. -/
def StandsFor (l : Literal) (v : Value) : Prop :=
  v.literal = .ok l.text ∧ v.toText? = some l.content

theorem standsFor_iff {l : Literal} {v : Value} : StandsFor l v ↔ v.token? = some l := by
  constructor
  · rintro ⟨hliteral, htext⟩
    obtain ⟨l', hl', htext'⟩ := literal_eq_ok_iff.mp hliteral
    have hcontent : l'.content = l.content := Option.some.inj ((toText?_of_token? hl').symm.trans htext)
    rw [hl', Literal.eq_of_text htext' hcontent]
  · intro h
    exact ⟨literal_eq_ok_iff.mpr ⟨l, h, rfl⟩, toText?_of_token? h⟩

private theorem standsFor_of_mapM {leaves : List Value} {ls : List Literal} (h : leaves.mapM token? = some ls) :
    List.Forall₂ StandsFor ls leaves := by
  induction leaves generalizing ls with
  | nil =>
    obtain rfl : [] = ls := Option.some.inj h
    exact .nil
  | cons leaf leaves ih =>
    rw [List.mapM_cons] at h
    obtain ⟨l, hl, h⟩ := Option.bind_eq_some_iff.mp h
    obtain ⟨rest, hrest, h⟩ := Option.bind_eq_some_iff.mp h
    obtain rfl : l :: rest = ls := Option.some.inj h
    exact .cons (standsFor_iff.mpr hl) (ih hrest)

/-- The literals in all batches together are those of the leaves. -/
theorem standsFor_tokenBatches {v : Value} {lists : List (List Literal)} (h : v.tokenBatches? = some lists) :
    List.Forall₂ StandsFor lists.flatten v.leaves := by
  obtain ⟨ls, hls, rfl⟩ := Option.map_eq_some_iff.mp h
  rw [flatten_cutAfter]
  exact standsFor_of_mapM hls

/-- There are as few batches as two thousand literals for each of them allow. -/
theorem length_tokenBatches {v : Value} {lists : List (List Literal)} (h : v.tokenBatches? = some lists) :
    lists.length = (v.leaves.length + 1999) / 2000 := by
  obtain ⟨ls, hls, rfl⟩ := Option.map_eq_some_iff.mp h
  have hlength := (standsFor_of_mapM hls).length_eq
  rw [length_cutAfter, hlength]
  rfl

theorem length_literalBatches {v : Value} {batches : List Text} (h : v.literalBatches = .ok batches) :
    batches.length = (v.leaves.length + 1999) / 2000 := by
  obtain ⟨lists, hlists, -, rfl⟩ := exists_tokenBatches h
  rw [List.length_map, length_tokenBatches hlists]

/-- The batches of a value are read as the literals of its leaves. -/
theorem exists_readInBatches {v : Value} {batches : List Text} (h : v.literalBatches = .ok batches) :
    ∃ lists, ReadInBatches batches lists ∧ List.Forall₂ StandsFor lists.flatten v.leaves := by
  obtain ⟨lists, hlists, hne, rfl⟩ := exists_tokenBatches h
  have hleaves := standsFor_tokenBatches hlists
  obtain ⟨ls, -, rfl⟩ := Option.map_eq_some_iff.mp hlists
  have hsize : batchSize - 1 + 1 = 2000 := rfl
  refine ⟨cutAfter (batchSize - 1) ls, ⟨?_, ?_, ?_, ?_⟩, hleaves⟩
  · rw [List.map_map]
    exact List.map_congr_left fun batch hbatch => Literal.readList?_spell (hne batch hbatch)
  · intro batch hbatch
    exact List.length_pos_iff.mpr (hne batch hbatch)
  · intro batch hbatch
    exact hsize ▸ length_le_of_mem_cutAfter hbatch
  · intro batch hbatch
    exact hsize ▸ length_eq_of_mem_dropLast_cutAfter hbatch

/-! ### Lists without batches -/

/-- The leftmost leaf without a literal is the reason that there are no batches. -/
theorem literalBatches_eq_error_iff {v : Value} {err : Error} :
    v.literalBatches = .error err ↔ ∃ path leaf, v.LeafAt path leaf ∧ leaf.literal = .error err ∧
      ∀ path' leaf', path' < path → v.LeafAt path' leaf' → ∃ t, leaf'.literal = .ok t := by
  rw [← failure?_eq_some_iff, failure?_literalBatches, findSome?_leaves_iff]
  simp only [← failure?_literal, failure?_eq_some_iff, failure?_eq_none_iff]

theorem exists_literalBatches_iff {v : Value} :
    (∃ batches, v.literalBatches = .ok batches) ↔ ∀ path leaf, v.LeafAt path leaf → ∃ t, leaf.literal = .ok t := by
  rw [← failure?_eq_none_iff, failure?_literalBatches, List.findSome?_eq_none_iff]
  simp only [← failure?_literal, failure?_eq_none_iff, mem_leaves_iff]
  constructor
  · intro h path leaf hleaf
    exact h leaf ⟨path, hleaf⟩
  · rintro h leaf ⟨path, hleaf⟩
    exact h path leaf hleaf

/-- A list of values, however deep its lists are nested, has batches if and only if all its leaves have literals. The
batches are then read as the literals of the leaves from left to right; otherwise the leftmost leaf without a literal
says what is wrong. -/
theorem literalBatches_list (items : List Value) :
    ((∃ batches, (list items).literalBatches = .ok batches) ↔
      ∀ path leaf, (list items).LeafAt path leaf → ∃ t, leaf.literal = .ok t) ∧
    (∀ err, (list items).literalBatches = .error err ↔
      ∃ path leaf, (list items).LeafAt path leaf ∧ leaf.literal = .error err ∧
        ∀ path' leaf', path' < path → (list items).LeafAt path' leaf' → ∃ t, leaf'.literal = .ok t) ∧
    (∀ path, (list items).LeafAt path .null → ∃ err, (list items).literalBatches = .error err) ∧
    ∀ batches, (list items).literalBatches = .ok batches →
      ∃ lists places, (list items).Traverses places ∧ ReadInBatches batches lists ∧
        List.Forall₂ StandsFor lists.flatten (places.map Prod.snd) ∧ (batches = [] ↔ places = []) := by
  refine ⟨exists_literalBatches_iff, fun err => literalBatches_eq_error_iff, fun path hnull => ?_,
    fun batches hbatches => ?_⟩
  · rw [exists_error_iff_not_ok, exists_literalBatches_iff]
    intro h
    obtain ⟨t, ht⟩ := h path .null hnull
    simp [literal] at ht
  · obtain ⟨lists, hread, hleaves⟩ := exists_readInBatches hbatches
    rw [← map_snd_places] at hleaves
    refine ⟨lists, (list items).places, traverses_places _, hread, hleaves, ?_⟩
    rw [literalBatches_eq_nil_iff hbatches, ← map_snd_places, List.map_eq_nil_iff]

end Value

end EntityStore
