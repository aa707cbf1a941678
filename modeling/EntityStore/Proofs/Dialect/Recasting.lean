import EntityStore.Entity.Basic
import EntityStore.Proofs.Dialect.Casting
import EntityStore.Proofs.Sql.ValueComment
import EntityStore.Proofs.Text.Searching

/-!
# Rewriting the casts of a text part by part

`Lite.Recasts t u` says that the rewriting of casts passes over `t` and leaves `u` behind, whatever follows.  Texts that
are rewritten can therefore be put together, and a text that is put together from words, names and literals stays as it
is unless one of them says how a cast begins.  Numbers, guids, dates and time spans do not have the letter that begins
one, so that only free texts count (`Value.stays_literal`, `Value.stays_pattern`, `Value.stays_literalBatches`).
-/

namespace EntityStore

open Lite (castMark castsFrom? isInert isInert_of_notMem)

/-- The names of an entity in the database. -/
def Entity.storedNames (e : Entity) : List Text :=
  e.schema :: e.table :: e.columns.map Column.name

/-! ### Rewriting the parts of a text -/

namespace Lite

/-- A cast of a column as the server has it. -/
def serverCast (column : Text) : Text :=
  castMark ++ Text.bracket column ++ ")".toList

/-- A cast of a column as the lite dialect has it. -/
def liteCast (column : Text) : Text :=
  "CAST(".toList ++ Text.bracket column ++ " AS TEXT)".toList

/-- Rewriting casts makes one text into the other, whatever follows. -/
def Recasts (t u : Text) : Prop :=
  ∀ rest, castsFrom? (t ++ rest) = (castsFrom? rest).map (u ++ ·)

/-- The rewriting leaves a text alone, whatever follows. -/
abbrev Stays (t : Text) : Prop :=
  Recasts t t

variable {t u t' u' : Text}

theorem Recasts.castsFrom?_eq (h : Recasts t u) : castsFrom? t = some u := by
  have hnil := h []
  rwa [castsFrom?_nil, Option.map_some, List.append_nil, List.append_nil] at hnil

theorem Recasts.append (h : Recasts t u) (h' : Recasts t' u') : Recasts (t ++ t') (u ++ u') := by
  intro rest
  rw [List.append_assoc, h, h', Option.map_map]
  refine congrFun (congrArg _ (funext fun tail => ?_)) _
  rw [Function.comp_apply, List.append_assoc]

theorem stays_of_isInert {s : Text} (hs : isInert s = true) : Stays s :=
  castsFrom?_inert hs

theorem stays_bracket {name : Text} (h : ¬castMark <:+: name) : Stays (Text.bracket name) :=
  castsFrom?_name h

theorem stays_quote {string : Text} (h : ¬castMark <:+: string) : Stays (Text.quote string) :=
  castsFrom?_string h

theorem recasts_serverCast (column : Text) : Recasts (serverCast column) (liteCast column) := by
  intro rest
  have hserver : serverCast column ++ rest = castMark ++ (Text.bracket column ++ ')' :: rest) := by
    rw [serverCast, List.append_assoc, List.append_assoc]
    rfl
  rw [hserver, castsFrom?_cast]
  rfl

theorem Recasts.enclose (h : Recasts t u) : Recasts ('(' :: t ++ [')']) ('(' :: u ++ [')']) :=
  ((stays_of_isInert (s := ['(']) (by decide)).append h).append (stays_of_isInert (by decide))

theorem recasts_joinWith {s : Text} (hs : isInert s = true) {α : Type} {f g : α → Text} {as : List α}
    (h : ∀ a ∈ as, Recasts (f a) (g a)) : Recasts (Text.joinWith s (as.map f)) (Text.joinWith s (as.map g)) := by
  match as with
  | [] => exact stays_of_isInert rfl
  | [a] => exact h a (List.mem_singleton_self a)
  | a :: b :: rest =>
    obtain ⟨ha, hrest⟩ := List.forall_mem_cons.mp h
    exact (ha.append (stays_of_isInert hs)).append (recasts_joinWith hs hrest)

theorem stays_joinWith {s : Text} (hs : isInert s = true) {ts : List Text} (h : ∀ t ∈ ts, Stays t) :
    Stays (Text.joinWith s ts) := by
  have hjoined := recasts_joinWith (f := id) (g := id) hs h
  rwa [List.map_id] at hjoined

end Lite

open Lite (Recasts Stays serverCast liteCast stays_of_isInert stays_bracket stays_quote stays_joinWith recasts_joinWith)

/-! ### Literals -/

section Literals

/-- The letter that begins a cast mark. -/
private theorem notMem_of_isDigit {t : Text} (h : ∀ c ∈ t, c.isDigit = true) : 'C' ∉ t :=
  fun hc => absurd (h _ hc) (by decide)

private theorem notMem_ofNatPadded (width n : Nat) : 'C' ∉ Text.ofNatPadded width n :=
  notMem_of_isDigit fun _ => Text.isDigit_of_mem_ofNatPadded

private theorem notMem_yearText (y : Int) : 'C' ∉ yearText y := by
  unfold yearText
  split
  · exact notMem_ofNatPadded _ _
  · split <;> simp [notMem_ofNatPadded]

private theorem notMem_fractionText (n : Nat) : 'C' ∉ fractionText n := by
  unfold fractionText
  split
  · simp
  · split
    · simp [notMem_ofNatPadded]
    · split <;> simp [notMem_ofNatPadded]

private theorem notMem_dateTime (t : DateTime) : 'C' ∉ t.toText := by
  simp [DateTime.toText, Date.toText, TimeOfDay.toText, notMem_ofNatPadded, notMem_yearText, notMem_fractionText]

private theorem notMem_offsetText (o : Int) : 'C' ∉ offsetText o := by
  unfold offsetText
  split <;> simp [notMem_ofNatPadded]

private theorem notMem_timeSpan (s : TimeSpan) : 'C' ∉ s.toText := by
  have hdays (n : Nat) : 'C' ∉ Text.ofNat n := notMem_of_isDigit fun _ => Text.isDigit_of_mem_ofNat
  unfold TimeSpan.toText
  simp only [List.mem_append, List.mem_cons, not_or, notMem_ofNatPadded]
  split <;> split <;> split <;> simp [notMem_ofNatPadded, hdays]

private theorem notMem_guid (g : Guid) : 'C' ∉ g.toText := by
  have hplain : 'C' ∉ g.plainText := by
    intro h
    obtain ⟨d, -, hd⟩ := List.mem_map.mp h
    have hdigit : ∀ d : Fin 16, Text.hexDigit d ≠ 'C' := by decide
    exact hdigit d hd
  have hdrop (k : Nat) : 'C' ∉ g.plainText.drop k := fun h => hplain (List.mem_of_mem_drop h)
  have htake (k n : Nat) : 'C' ∉ (g.plainText.drop k).take n := fun h => hdrop k (List.mem_of_mem_take h)
  have hfirst : 'C' ∉ g.plainText.take 8 := fun h => hplain (List.mem_of_mem_take h)
  simp [Guid.toText, hdrop, htake, hfirst]

/-- Of the values that have a literal, only those with a free text can say how a cast begins. -/
private theorem Value.not_castMark_infix_content {v : Value} {l : Literal} (h : v.token? = some l)
    (hfree : ∀ u ∈ v.freeText?, ¬castMark <:+: u) : ¬castMark <:+: l.content := by
  have htext : v.toText? = some l.content := Value.toText?_of_token? h
  have hsafe {t : Text} (ht : v.toText? = some t) (hnone : 'C' ∉ t) : ¬castMark <:+: l.content := by
    obtain rfl := Option.some.inj (ht.symm.trans htext)
    exact fun hmark => hnone (hmark.subset (by decide))
  have hnumber {n : Numeral} (hn : v.token? = some (.number n)) : ¬castMark <:+: l.content := by
    obtain rfl := Option.some.inj (hn.symm.trans h)
    exact fun hmark => absurd (n.isNumeralChar_of_mem 'C' (hmark.subset (by decide))) (by decide)
  cases v with
  | null => cases htext
  | bytes _ => cases htext
  | list _ => cases htext
  | string t => exact hfree _ htext
  | xml t => exact hfree _ htext
  | char c => exact hfree _ htext
  | bool b => exact hnumber rfl
  | int i => exact hnumber rfl
  | uint u => exact hnumber rfl
  | decimal d => exact hnumber rfl
  | double d =>
    by_cases hd : d.isFinite = true
    · exact hnumber (dif_pos hd)
    · rw [token?, dif_neg hd] at h
      cases h
  | dateTime t => exact hsafe rfl (notMem_dateTime t)
  | offsetDateTime t =>
    exact hsafe rfl fun hc => (List.mem_append.mp hc).elim (notMem_dateTime _) (notMem_offsetText _)
  | guid g => exact hsafe rfl (notMem_guid g)
  | timeSpan s => exact hsafe rfl (notMem_timeSpan s)

theorem Value.stays_literal {v : Value} {t : Text} (h : v.literal = .ok t)
    (hfree : ∀ u ∈ v.freeText?, ¬castMark <:+: u) : Stays t := by
  obtain ⟨l, hl, rfl⟩ := Value.literal_eq_ok_iff.mp h
  have hcontent := Value.not_castMark_infix_content hl hfree
  cases l with
  | string t => exact stays_quote hcontent
  | number n =>
    exact stays_of_isInert (isInert_of_notMem fun hc => absurd (n.isNumeralChar_of_mem _ hc) (by decide))

/-- A literal between wildcards is a literal, too. -/
theorem Value.stays_pattern {v : Value} {t : Text} (h : v.literal = .ok t)
    (hfree : ∀ u ∈ v.freeText?, ¬castMark <:+: u) : Stays (" '%".toList ++ t.dropQuotes ++ "%'".toList) := by
  obtain ⟨l, hl, rfl⟩ := Value.literal_eq_ok_iff.mp h
  have hcontent := Value.not_castMark_infix_content hl hfree
  have hpattern : ¬castMark <:+: '%' :: (l.content ++ ['%']) := by
    have hwildcard : '%' ∉ castMark := by decide
    rw [Text.infix_cons_iff_of_notMem hwildcard (by decide), Text.infix_append_cons_iff hwildcard]
    exact fun h => h.elim hcontent (by decide)
  have hquote : " '%".toList ++ l.text.dropQuotes ++ "%'".toList =
      [' '] ++ Text.quote ('%' :: (l.content ++ ['%'])) := by
    rw [l.dropQuotes_text]
    simp [Text.quote, Text.doubleQuotes]
  rw [hquote]
  exact (stays_of_isInert (by decide)).append (stays_quote hpattern)

private theorem stays_literals {leaves : List Value} {ts : List Text} (h : leaves.mapM Value.literal = .ok ts)
    (hfree : ∀ u ∈ leaves.filterMap Value.freeText?, ¬castMark <:+: u) : ∀ t ∈ ts, Stays t := by
  induction leaves generalizing ts with
  | nil =>
    obtain rfl : [] = ts := Except.ok.inj h
    exact List.forall_mem_nil _
  | cons leaf leaves ih =>
    obtain ⟨t, rest, hleaf, hrest, rfl⟩ := mapM_cons_eq_ok_iff.mp h
    have hfirst : ∀ u ∈ leaf.freeText?, ¬castMark <:+: u := fun u hu =>
      hfree u (List.mem_filterMap.mpr ⟨leaf, List.mem_cons_self .., hu⟩)
    have hothers : ∀ u ∈ leaves.filterMap Value.freeText?, ¬castMark <:+: u := fun u hu => by
      obtain ⟨v, hv, hvu⟩ := List.mem_filterMap.mp hu
      exact hfree u (List.mem_filterMap.mpr ⟨v, List.mem_cons_of_mem _ hv, hvu⟩)
    exact List.forall_mem_cons.mpr ⟨Value.stays_literal hleaf hfirst, ih hrest hothers⟩

theorem Value.stays_literalBatches {v : Value} {batches : List Text} (h : v.literalBatches = .ok batches)
    (hfree : ∀ u ∈ v.leaves.filterMap Value.freeText?, ¬castMark <:+: u) : ∀ batch ∈ batches, Stays batch := by
  obtain ⟨ts, hts, rfl⟩ := map_eq_ok_iff.mp h
  have hliterals := stays_literals hts hfree
  intro batch hbatch
  obtain ⟨cut, hcut, rfl⟩ := List.mem_map.mp hbatch
  refine stays_joinWith (by decide) fun t ht => hliterals t ?_
  rw [← flatten_cutAfter (batchSize - 1) ts]
  exact List.mem_flatten.mpr ⟨cut, hcut, ht⟩

end Literals

end EntityStore
