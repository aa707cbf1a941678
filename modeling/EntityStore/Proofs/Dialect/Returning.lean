import EntityStore.Proofs.Access.WritePlan
import EntityStore.Proofs.Dialect.Recasting

/-!
# Insertions in the lite dialect

An insertion that answers keys announces them in front of the values; in the lite dialect they come at the end, without
the table of inserted rows.  The rewriting finds its three marks by searching the raw text, and names may say anything.

No mark has a bracket, so that it stands within a name or between two names, and a placeholder is set off by its own
signs.  If no name says a mark, the first ones are therefore those of the statement.  The replacement that removes the
table of inserted rows cannot touch a name, whatever it says: a bracket that closes there is followed by another one,
and the point of the mark never comes (`Lite.replaceAll_closed`).
-/

namespace EntityStore

open Text (bracket bracketColumn joinWith not_infix_of_occursIn)
open Entity (named)

namespace Lite

/-- How a cast begins, up to its parenthesis. -/
def castHead : Text := "CONVERT(NVARCHAR(MAX)".toList

/-- An insertion in the lite dialect, given how its table is written. -/
def returningText (tableText : Text) (columns keys : List Text) : Text :=
  "INSERT INTO ".toList ++ tableText ++ " (".toList ++ joinWith ", ".toList (columns.map bracket) ++ ")".toList ++
    " VALUES (".toList ++ joinWith ", ".toList (columns.map ('@' :: ·)) ++ ")".toList ++
    if keys = [] then [] else " RETURNING ".toList ++ joinWith ", ".toList (keys.map bracket)

/-- None of the marks that the rewriting looks for stands in a name. -/
def IsUnmarked (names : List Text) : Prop :=
  ∀ name ∈ names, ∀ mark ∈ [outputMark, valuesMark, castHead], ¬mark <:+: name

/-! ### Marks between names -/

section Marks

variable {mark s t : Text}

/-- A mark without brackets does not reach into a name. -/
private theorem not_infix_bracket (hopen : '[' ∉ mark) (hclose : ']' ∉ mark) (hne : mark ≠ []) {name : Text}
    (hs : ¬mark <:+: s) (hname : ¬mark <:+: name) (ht : ¬mark <:+: t) : ¬mark <:+: s ++ (bracket name ++ t) := by
  have htext : bracket name ++ t = '[' :: (name.doubled ']' ++ ']' :: t) := by
    simp [bracket, Text.doubleBrackets_eq]
  rw [htext, Text.infix_append_cons_iff hopen, Text.infix_append_cons_iff hclose]
  rintro (h | h | h)
  · exact hs h
  · exact hname (Text.infix_of_infix_doubled hclose hne h)
  · exact ht h

/-- A mark without brackets stands between two names of a list or around the list. -/
private theorem not_infix_names (hopen : '[' ∉ mark) (hclose : ']' ∉ mark) (hne : mark ≠ []) {before : Text}
    {names : List Text} (hnames : ∀ name ∈ names, ¬mark <:+: name) (hs : ¬mark <:+: s ++ before)
    (hcomma : ¬mark <:+: ", ".toList ++ before) (ht : ¬mark <:+: t) (hnone : names = [] → ¬mark <:+: s ++ t) :
    ¬mark <:+: s ++ (joinWith ", ".toList (names.map fun name => before ++ bracket name) ++ t) := by
  induction names generalizing s with
  | nil => exact hnone rfl
  | cons name names ih =>
    obtain ⟨hname, hothers⟩ := List.forall_mem_cons.mp hnames
    cases names with
    | nil =>
      have hlast := not_infix_bracket hopen hclose hne hs hname ht
      rw [List.append_assoc] at hlast
      simpa only [List.map_cons, List.map_nil, joinWith, List.append_assoc] using hlast
    | cons next names =>
      have hrest := ih hothers hcomma fun h => absurd h (List.cons_ne_nil _ _)
      have hall := not_infix_bracket hopen hclose hne hs hname hrest
      simpa only [List.map_cons, joinWith, List.append_assoc] using hall

/-- A mark without the signs of placeholders stands within a name or behind the last one. -/
private theorem not_infix_places (hplace : '@' ∉ mark) (hcomma : ',' ∉ mark) {names : List Text}
    (hnames : ∀ name ∈ names, ¬mark <:+: name) (hs : ¬mark <:+: s) (hspace : ¬mark <:+: [' '])
    (hlast : ∀ name ∈ names, ¬mark <:+: name ++ t) (hnone : names = [] → ¬mark <:+: s ++ t) :
    ¬mark <:+: s ++ (joinWith ", ".toList (names.map ('@' :: ·)) ++ t) := by
  induction names generalizing s with
  | nil => exact hnone rfl
  | cons name names ih =>
    obtain ⟨hname, hothers⟩ := List.forall_mem_cons.mp hnames
    obtain ⟨hend, hends⟩ := List.forall_mem_cons.mp hlast
    cases names with
    | nil =>
      show ¬mark <:+: s ++ '@' :: (name ++ t)
      rw [Text.infix_append_cons_iff hplace]
      exact fun h => h.elim hs hend
    | cons next names =>
      have hrest := ih hothers hspace hends fun h => absurd h (List.cons_ne_nil _ _)
      have htext : s ++ (joinWith ", ".toList ((name :: next :: names).map ('@' :: ·)) ++ t) =
          s ++ '@' :: (name ++ ',' :: ([' '] ++ (joinWith ", ".toList ((next :: names).map ('@' :: ·)) ++ t))) := by
        simp [joinWith]
      rw [htext, Text.infix_append_cons_iff hplace, Text.infix_append_cons_iff hcomma]
      rintro (h | h | h)
      · exact hs h
      · exact hname h
      · exact hrest h

end Marks

/-! ### The text of an insertion -/

section Insertions

variable {schema? : Option Text} {table : Text} {fields : WrittenFields} {keys : List Text} {mark t : Text}

/-- The names in an insertion. -/
def insertedNames (schema? : Option Text) (table : Text) (fields : WrittenFields) (keys : List Text) : List Text :=
  schema?.toList ++ table :: fields.map Prod.fst ++ keys

/-- What stands before, between and behind the names of an insertion up to the columns. -/
private def headWords : List Text :=
  ["INSERT INTO ".toList, ".".toList, " (".toList, ", ".toList]

/-- An insertion up to the columns. -/
private def headText (schema? : Option Text) (table : Text) (fields : WrittenFields) : Text :=
  "INSERT INTO ".toList ++ bracketColumn schema? table ++ " (".toList ++
    joinWith ", ".toList (fields.map fun field => bracket field.1) ++ ")".toList

private def placesText (fields : WrittenFields) : Text :=
  joinWith ", ".toList (fields.map fun field => '@' :: field.1)

/-- The keys that an insertion answers, as the server announces them. -/
private def keysText (keys : List Text) : Text :=
  joinWith ", ".toList (keys.map fun key => insertedMark ++ bracket key)

private theorem insertText_eq :
    Write.insertText schema? table fields keys =
      headText schema? table fields ++ Write.outputText keys ++ valuesMark ++ placesText fields ++ ")".toList := rfl

private theorem insertText_of_nil (h : keys = []) :
    Write.insertText schema? table fields keys =
      headText schema? table fields ++ (valuesMark ++ (placesText fields ++ ")".toList)) := by
  have houtput : Write.outputText keys = [] := if_pos h
  rw [insertText_eq, houtput, List.append_nil, List.append_assoc, List.append_assoc]

private theorem insertText_of_ne_nil (h : keys ≠ []) :
    Write.insertText schema? table fields keys =
      headText schema? table fields ++ outputMark ++
        (keysText keys ++ valuesMark ++ (placesText fields ++ ")".toList)) := by
  have houtput : Write.outputText keys = outputMark ++ keysText keys := if_neg h
  rw [insertText_eq, houtput]
  simp only [List.append_assoc]

private theorem returningText_eq :
    returningText (bracketColumn schema? table) (fields.map Prod.fst) keys =
      headText schema? table fields ++ valuesMark ++ placesText fields ++ ")".toList ++
        if keys = [] then [] else " RETURNING ".toList ++ joinWith ", ".toList (keys.map bracket) := by
  have hcolumns : joinWith ", ".toList ((fields.map Prod.fst).map bracket) =
      joinWith ", ".toList (fields.map fun field => bracket field.1) := by
    rw [List.map_map]
    rfl
  have hplaces : joinWith ", ".toList ((fields.map Prod.fst).map ('@' :: ·)) = placesText fields := by
    rw [List.map_map]
    rfl
  unfold returningText
  rw [hcolumns, hplaces]
  rfl

private theorem not_infix_headWords (h : headWords.all (fun word => !Text.occursIn mark word) = true) :
    ∀ word ∈ headWords, ¬mark <:+: word := by
  intro word hword
  have hsearch := List.all_eq_true.mp h word hword
  exact not_infix_of_occursIn (by simpa using hsearch)

private theorem not_infix_headText (hopen : '[' ∉ mark) (hclose : ']' ∉ mark) (hne : mark ≠ [])
    (hwords : ∀ word ∈ headWords, ¬mark <:+: word)
    (hnames : ∀ name ∈ insertedNames schema? table fields keys, ¬mark <:+: name) (ht : ¬mark <:+: ")".toList ++ t)
    (hnone : ¬mark <:+: " ()".toList ++ t) : ¬mark <:+: headText schema? table fields ++ t := by
  have hcolumns : ¬mark <:+: " (".toList ++ (joinWith ", ".toList (fields.map fun field => bracket field.1) ++
      (")".toList ++ t)) := by
    have hfields : ∀ name ∈ fields.map Prod.fst, ¬mark <:+: name :=
      fun name hname => hnames name
        (by simp only [insertedNames, List.mem_append, List.mem_cons, hname, true_or, or_true])
    have hopening := hwords " (".toList (by simp [headWords])
    have hcomma := hwords ", ".toList (by simp [headWords])
    rw [← List.append_nil " (".toList] at hopening
    rw [← List.append_nil ", ".toList] at hcomma
    have hlist := not_infix_names hopen hclose hne hfields hopening hcomma ht fun _ => hnone
    rwa [List.map_map] at hlist
  have htable : ¬mark <:+: table := hnames table (by simp [insertedNames])
  have hparts (into target opening columns close t : Text) :
      into ++ target ++ opening ++ columns ++ close ++ t =
        into ++ (target ++ (opening ++ (columns ++ (close ++ t)))) := by
    simp only [List.append_assoc]
  have htext : headText schema? table fields ++ t = "INSERT INTO ".toList ++ (bracketColumn schema? table ++
      (" (".toList ++ (joinWith ", ".toList (fields.map fun field => bracket field.1) ++ (")".toList ++ t)))) :=
    hparts ..
  have hinto := hwords "INSERT INTO ".toList (by simp [headWords])
  rw [htext]
  cases schema? with
  | none => exact not_infix_bracket hopen hclose hne hinto htable hcolumns
  | some schema =>
    have hschema : ¬mark <:+: schema := hnames schema (by simp [insertedNames])
    have hqualified := not_infix_bracket hopen hclose hne (hwords ".".toList (by simp [headWords])) htable hcolumns
    have hall := not_infix_bracket hopen hclose hne hinto hschema hqualified
    have htarget (t : Text) :
        bracketColumn (some schema) table ++ t = bracket schema ++ (".".toList ++ (bracket table ++ t)) :=
      List.append_assoc (bracket schema) ('.' :: bracket table) t
    rw [htarget]
    exact hall

end Insertions

/-! ### The table of inserted rows -/

section Inserted

/-- No text that is closed by a bracket has a bracket and a point where the text says something else. -/
private theorem not_prefix_closed {u : Text} (hu : ']' ∉ u) {name after : Text} (hafter : after.head? ≠ some '.') :
    ¬u ++ "].".toList <+: name.doubled ']' ++ ']' :: after := by
  induction u generalizing name with
  | nil =>
    cases name with
    | nil =>
      intro h
      obtain ⟨rest, hrest⟩ := (List.cons_prefix_cons.mp h).2
      exact hafter (by rw [← hrest]; rfl)
    | cons c name =>
      by_cases hc : c = ']'
      · rw [hc, Text.doubled_cons_self]
        intro h
        have hpoint := (List.cons_prefix_cons.mp (List.cons_prefix_cons.mp h).2).1
        exact absurd hpoint (by decide)
      · rw [Text.doubled_cons_of_ne hc]
        exact fun h => hc (List.cons_prefix_cons.mp h).1.symm
  | cons d u ih =>
    rw [List.mem_cons, not_or] at hu
    cases name with
    | nil => exact fun h => hu.1 (List.cons_prefix_cons.mp h).1.symm
    | cons c name =>
      by_cases hc : c = ']'
      · rw [hc, Text.doubled_cons_self]
        exact fun h => hu.1 (List.cons_prefix_cons.mp h).1.symm
      · rw [Text.doubled_cons_of_ne hc]
        exact fun h => ih hu.2 (List.cons_prefix_cons.mp h).2

/-- Removing the table of inserted rows passes over a text that is closed by a bracket, whatever it says. -/
theorem replaceAll_closed (name : Text) {after : Text} (hafter : after.head? ≠ some '.') :
    Text.replaceAll insertedMark [] (name.doubled ']' ++ ']' :: after) =
      name.doubled ']' ++ ']' :: Text.replaceAll insertedMark [] after := by
  have hbracket (t : Text) : ¬insertedMark <+: ']' :: t :=
    fun h => absurd (List.cons_prefix_cons.mp h).1 (by decide)
  have hfront (name : Text) : ¬insertedMark <+: name.doubled ']' ++ ']' :: after :=
    not_prefix_closed (u := "[Inserted".toList) (by decide) hafter
  induction name with
  | nil => exact Text.replaceAll_cons (hbracket after)
  | cons c name ih =>
    by_cases hc : c = ']'
    · rw [hc, Text.doubled_cons_self, List.cons_append, List.cons_append, Text.replaceAll_cons (hbracket _),
        Text.replaceAll_cons (hbracket _), ih]
      rfl
    · have hstarts := hfront (c :: name)
      rw [Text.doubled_cons_of_ne hc, List.cons_append] at hstarts ⊢
      rw [Text.replaceAll_cons hstarts, ih]
      rfl

private theorem replaceAll_bracket (name : Text) {after : Text} (hafter : after.head? ≠ some '.') :
    Text.replaceAll insertedMark [] (bracket name ++ after) =
      bracket name ++ Text.replaceAll insertedMark [] after := by
  -- the opening bracket is a character of a closed text like any other
  have htext (t : Text) : bracket name ++ t = Text.doubled ']' ('[' :: name) ++ ']' :: t := by
    rw [Text.doubled_cons_of_ne (by decide)]
    simp [bracket, Text.doubleBrackets_eq]
  rw [htext, htext, replaceAll_closed _ hafter]

private theorem replaceAll_keysText (keys : List Text) :
    Text.replaceAll insertedMark [] (keysText keys) = joinWith ", ".toList (keys.map bracket) := by
  have hmark (t : Text) : Text.replaceAll insertedMark [] (insertedMark ++ t) = Text.replaceAll insertedMark [] t :=
    Text.replaceAll_mark (by decide) t
  match keys with
  | [] => rfl
  | [key] =>
    have hkey := @replaceAll_bracket key [] (by decide)
    rw [List.append_nil] at hkey
    show Text.replaceAll insertedMark [] (insertedMark ++ bracket key) = bracket key
    rw [hmark, hkey]
    exact List.append_nil _
  | key :: next :: rest =>
    have hkeys : keysText (key :: next :: rest) =
        insertedMark ++ (bracket key ++ (", ".toList ++ keysText (next :: rest))) := by
      simp [keysText, joinWith]
    have hcomma (t : Text) : Text.replaceAll insertedMark [] (", ".toList ++ t) =
        ", ".toList ++ Text.replaceAll insertedMark [] t := by
      have hother {c : Char} (hc : '[' ≠ c) (u : Text) : ¬insertedMark <+: c :: u :=
        fun h => hc (List.cons_prefix_cons.mp h).1
      exact (Text.replaceAll_cons (hother (by decide) _)).trans
        (congrArg (',' :: ·) (Text.replaceAll_cons (hother (by decide) _)))
    have hafter : (", ".toList ++ keysText (next :: rest)).head? ≠ some '.' :=
      fun h => absurd (Option.some.inj h) (by decide)
    rw [hkeys, hmark, replaceAll_bracket key hafter, hcomma, replaceAll_keysText (next :: rest)]
    simp [joinWith]

end Inserted

/-! ### Insertions -/

section Adapt

variable {schema? : Option Text} {table : Text} {fields : WrittenFields} {keys : List Text}

private theorem not_infix_placesText {mark s t : Text} (hplace : '@' ∉ mark) (hcomma : ',' ∉ mark)
    (hnames : ∀ name ∈ insertedNames schema? table fields keys, ¬mark <:+: name) (hs : ¬mark <:+: s)
    (hspace : ¬mark <:+: [' ']) (hlast : ∀ name, ¬mark <:+: name → ¬mark <:+: name ++ t) :
    ¬mark <:+: s ++ (placesText fields ++ t) := by
  have hfields : ∀ name ∈ fields.map Prod.fst, ¬mark <:+: name :=
    fun name hname => hnames name
      (by simp only [insertedNames, List.mem_append, List.mem_cons, hname, true_or, or_true])
  have hplaces := not_infix_places hplace hcomma hfields hs hspace (fun name hname => hlast name (hfields name hname))
    fun _ => hlast s hs
  rwa [List.map_map] at hplaces

private theorem not_infix_keysText {mark s t : Text} (hopen : '[' ∉ mark) (hclose : ']' ∉ mark) (hne : mark ≠ [])
    (hnames : ∀ name ∈ insertedNames schema? table fields keys, ¬mark <:+: name) (hkeys : keys ≠ [])
    (hs : ¬mark <:+: s ++ insertedMark) (hcomma : ¬mark <:+: ", ".toList ++ insertedMark) (ht : ¬mark <:+: t) :
    ¬mark <:+: s ++ (keysText keys ++ t) :=
  not_infix_names hopen hclose hne (fun name hname => hnames name (List.mem_append_right _ hname)) hs hcomma ht
    fun hnil => absurd hnil hkeys

/-- The head of a cast is nowhere in front of the last parenthesis. -/
private theorem not_castHead_infix_tail (hnames : ∀ name ∈ insertedNames schema? table fields keys, ¬castHead <:+: name)
    {s : Text} (hvalues : ¬castHead <:+: s ++ valuesMark) (houtput : ¬castHead <:+: s ++ outputMark ++ insertedMark) :
    ¬castHead <:+: s ++ (Write.outputText keys ++ (valuesMark ++ placesText fields)) := by
  have hplaces {s : Text} (hs : ¬castHead <:+: s) : ¬castHead <:+: s ++ placesText fields := by
    have hspace : ¬castHead <:+: [' '] := not_infix_of_occursIn rfl
    have hall := not_infix_placesText (t := []) (by decide) (by decide) hnames hs hspace fun name hname => by
      rwa [List.append_nil name]
    rwa [List.append_nil (placesText fields)] at hall
  by_cases hkeys : keys = []
  · have hnone : Write.outputText keys = [] := if_pos hkeys
    have htext : s ++ (Write.outputText keys ++ (valuesMark ++ placesText fields)) =
        s ++ valuesMark ++ placesText fields := by
      rw [hnone]
      exact (List.append_assoc s valuesMark _).symm
    rw [htext]
    exact hplaces hvalues
  · have hsome : Write.outputText keys = outputMark ++ keysText keys := if_neg hkeys
    have htext : s ++ (Write.outputText keys ++ (valuesMark ++ placesText fields)) =
        s ++ outputMark ++ (keysText keys ++ (valuesMark ++ placesText fields)) := by
      rw [hsome, List.append_assoc outputMark]
      exact (List.append_assoc s outputMark _).symm
    rw [htext]
    exact not_infix_keysText (by decide) (by decide) (by decide) hnames hkeys houtput (not_infix_of_occursIn rfl)
      (hplaces (not_infix_of_occursIn rfl))

/-- An insertion has no cast, and none is begun in its names. -/
private theorem castsFrom?_insertText
    (hnames : ∀ name ∈ insertedNames schema? table fields keys, ¬castHead <:+: name) :
    castsFrom? (Write.insertText schema? table fields keys) = some (Write.insertText schema? table fields keys) := by
  have hbody : ¬castHead <:+: headText schema? table fields ++
      (Write.outputText keys ++ (valuesMark ++ placesText fields)) :=
    not_infix_headText (by decide) (by decide) (by decide) (not_infix_headWords rfl) hnames
      (not_castHead_infix_tail hnames (not_infix_of_occursIn rfl) (not_infix_of_occursIn rfl))
      (not_castHead_infix_tail hnames (not_infix_of_occursIn rfl) (not_infix_of_occursIn rfl))
  have hparts (head output values places close : Text) :
      head ++ output ++ values ++ places ++ close = head ++ (output ++ (values ++ places)) ++ close := by
    simp only [List.append_assoc]
  have htext : Write.insertText schema? table fields keys =
      headText schema? table fields ++ (Write.outputText keys ++ (valuesMark ++ placesText fields)) ++ [')'] :=
    insertText_eq.trans (hparts ..)
  refine castsFrom?_of_none (Text.splitFirst?_eq_none_iff.mpr fun hmark => ?_)
  rw [htext] at hmark
  -- a cast does not end with the parenthesis that ends the statement
  rcases List.infix_concat_iff.mp hmark with hends | hinside
  · rcases List.suffix_concat_iff.mp hends with hnil | ⟨_, hlast, -⟩
    · exact absurd hnil (by decide)
    · have hparenthesis := congrArg List.getLast? hlast
      rw [List.getLast?_concat] at hparenthesis
      exact absurd hparenthesis (by decide)
  · have hhead : castHead <:+: castMark := ⟨[], ", ".toList, rfl⟩
    exact hbody (hhead.trans hinside)

/-- An insertion without keys is not rewritten. -/
private theorem adaptOutput?_of_nil (hnames : ∀ name ∈ insertedNames schema? table fields keys, ¬outputMark <:+: name)
    (hkeys : keys = []) : adaptOutput? (Write.insertText schema? table fields keys) = none := by
  have hclose (name : Text) (hname : ¬outputMark <:+: name) : ¬outputMark <:+: name ++ ")".toList := by
    have hend := Text.infix_append_cons_iff (s := name) (t := []) (by decide : ')' ∉ outputMark)
    exact fun h => (hend.mp h).elim hname (not_infix_of_occursIn rfl)
  have htail {s : Text} (hs : ¬outputMark <:+: s ++ valuesMark) :
      ¬outputMark <:+: s ++ (valuesMark ++ (placesText fields ++ ")".toList)) := by
    have hplaces := not_infix_placesText (by decide) (by decide) hnames hs (not_infix_of_occursIn rfl) hclose
    exact List.append_assoc s valuesMark _ ▸ hplaces
  have hnone : ¬outputMark <:+: Write.insertText schema? table fields keys := by
    rw [insertText_of_nil hkeys]
    exact not_infix_headText (by decide) (by decide) (by decide) (not_infix_headWords rfl) hnames
      (htail (not_infix_of_occursIn rfl)) (htail (not_infix_of_occursIn rfl))
  have hsplit := Text.splitFirst?_eq_none_iff.mpr hnone
  rw [adaptOutput?, hsplit]
  cases Text.dropMark? insertMark (Write.insertText schema? table fields keys) <;> rfl

/-- The keys go behind the values. -/
private theorem adaptOutput?_of_ne_nil (hnames : IsUnmarked (insertedNames schema? table fields keys))
    (hkeys : keys ≠ []) :
    adaptOutput? (Write.insertText schema? table fields keys) =
      some (returningText (bracketColumn schema? table) (fields.map Prod.fst) keys) := by
  have houtput : ∀ name ∈ insertedNames schema? table fields keys, ¬outputMark <:+: name :=
    fun name hname => hnames name hname outputMark (by simp)
  have hvalues : ∀ name ∈ insertedNames schema? table fields keys, ¬valuesMark <:+: name :=
    fun name hname => hnames name hname valuesMark (by simp)
  have hparts (into target opening columns close output values places last : Text) :
      into <+: into ++ target ++ opening ++ columns ++ close ++ output ++ values ++ places ++ last := by
    simp only [List.append_assoc]
    exact List.prefix_append ..
  obtain ⟨rest, hrest⟩ : insertMark <+: Write.insertText schema? table fields keys := hparts ..
  have hinsert : Text.dropMark? insertMark (Write.insertText schema? table fields keys) = some rest :=
    Text.dropMark?_eq_some_iff.mpr hrest.symm
  -- the first announcement of keys stands behind the columns, the first one of values behind the keys
  have hhead : ¬outputMark <:+: headText schema? table fields ++ outputMark.dropLast :=
    not_infix_headText (by decide) (by decide) (by decide) (not_infix_headWords rfl) houtput (not_infix_of_occursIn rfl)
      (not_infix_of_occursIn rfl)
  have hlist : ¬valuesMark <:+: keysText keys ++ valuesMark.dropLast :=
    not_infix_keysText (s := []) (by decide) (by decide) (by decide) hvalues hkeys (not_infix_of_occursIn rfl)
      (not_infix_of_occursIn rfl) (not_infix_of_occursIn rfl)
  have hsplit : Text.splitFirst? outputMark (Write.insertText schema? table fields keys) =
      some (headText schema? table fields, keysText keys ++ valuesMark ++ (placesText fields ++ ")".toList)) := by
    rw [insertText_of_ne_nil hkeys]
    exact Text.splitFirst?_append hhead _
  have hsplit' : Text.splitFirst? valuesMark (keysText keys ++ valuesMark ++ (placesText fields ++ ")".toList)) =
      some (keysText keys, placesText fields ++ ")".toList) := Text.splitFirst?_append hlist _
  have hresult : adaptOutput? (Write.insertText schema? table fields keys) =
      some (headText schema? table fields ++ valuesMark ++ (placesText fields ++ ")".toList) ++ " RETURNING ".toList ++
        Text.replaceAll insertedMark [] (keysText keys)) := by
    rw [adaptOutput?, hinsert, hsplit]
    dsimp only [Option.bind_eq_bind, Option.bind_some]
    rw [hsplit']
    rfl
  have hreturning : returningText (bracketColumn schema? table) (fields.map Prod.fst) keys =
      headText schema? table fields ++ valuesMark ++ placesText fields ++ ")".toList ++
        (" RETURNING ".toList ++ joinWith ", ".toList (keys.map bracket)) := by
    rw [returningText_eq, if_neg hkeys]
  have hassoc (head values places close returning keys : Text) :
      head ++ values ++ (places ++ close) ++ returning ++ keys =
        head ++ values ++ places ++ close ++ (returning ++ keys) := by
    simp only [List.append_assoc]
  rw [hresult, replaceAll_keysText, hreturning]
  exact congrArg some (hassoc ..)

/-- Without keys there is nothing to move. -/
private theorem returningText_of_nil (hkeys : keys = []) :
    returningText (bracketColumn schema? table) (fields.map Prod.fst) keys =
      Write.insertText schema? table fields keys := by
  have hassoc (head values places close : Text) :
      head ++ values ++ places ++ close ++ [] = head ++ (values ++ (places ++ close)) := by simp
  rw [insertText_of_nil hkeys, returningText_eq, if_pos hkeys]
  exact hassoc ..

/-- In the lite dialect an insertion says the same, with its keys at the end. -/
theorem adapt_insertText (hnames : IsUnmarked (insertedNames schema? table fields keys)) :
    adapt (Write.insertText schema? table fields keys) =
      returningText (bracketColumn schema? table) (fields.map Prod.fst) keys := by
  have hcasts : adaptCasts (Write.insertText schema? table fields keys) =
      Write.insertText schema? table fields keys := by
    rw [adaptCasts, castsFrom?_insertText fun name hname => hnames name hname castHead (by simp), Option.getD_some]
  rw [adapt, hcasts]
  by_cases hkeys : keys = []
  · rw [adaptOutput?_of_nil (fun name hname => hnames name hname outputMark (by simp)) hkeys, Option.getD_none,
      returningText_of_nil hkeys]
  · rw [adaptOutput?_of_ne_nil hnames hkeys, Option.getD_some]

end Adapt

end Lite

/-- Names that are known are searched. -/
theorem Lite.isUnmarked_of_occursIn {names : List Text}
    (h : names.all (fun name => [outputMark, valuesMark, castHead].all fun mark => !Text.occursIn mark name) = true) :
    IsUnmarked names := by
  intro name hname mark hmark
  have hsearch := List.all_eq_true.mp (List.all_eq_true.mp h name hname) mark hmark
  exact not_infix_of_occursIn (by simpa using hsearch)

namespace Repository

private theorem isUnmarked_insertedNames {e : Entity} (hnames : Lite.IsUnmarked e.storedNames) (r : Record) :
    Lite.IsUnmarked (Lite.insertedNames (Text.schema? e.schema) e.table
      (named ((e.fields r).filter fun (c, _) => !c.isIdentity)) ((e.columns.filter Column.isKey).map Column.name)) := by
  have hcolumn {c : Column} (hc : c ∈ e.columns) : c.name ∈ e.storedNames :=
    List.mem_cons_of_mem _ (List.mem_cons_of_mem _ (List.mem_map_of_mem hc))
  intro name hname
  refine hnames name ?_
  rcases List.mem_append.mp hname with hname | hkey
  · rcases List.mem_append.mp hname with hschema | hname
    · have hsame : name = e.schema := by
        unfold Text.schema? at hschema
        split at hschema
        · cases hschema
        · exact List.mem_singleton.mp hschema
      exact hsame ▸ List.mem_cons_self ..
    · rcases List.mem_cons.mp hname with rfl | hfield
      · exact List.mem_cons_of_mem _ (List.mem_cons_self ..)
      · rw [named, List.map_map] at hfield
        obtain ⟨⟨c, v⟩, hmem, rfl⟩ := List.mem_map.mp hfield
        exact hcolumn (List.of_mem_zip (List.mem_filter.mp hmem).1).1
  · obtain ⟨c, hc, rfl⟩ := List.mem_map.mp hkey
    exact hcolumn (List.mem_filter.mp hc).1

/-- In the lite dialect, the statement that inserts a record has the same table, columns and placeholders and answers
the same keys, if no name has one of the marks that the rewriting looks for; without keys it is the same statement. -/
theorem adapt_insertStatement (e : Entity) (r : Record) (hnames : Lite.IsUnmarked e.storedNames) :
    let columns := ((e.fields r).filter fun (c, _) => !c.isIdentity).map fun (c, _) => c.name
    let keys := (e.columns.filter Column.isKey).map Column.name
    Lite.adapt (insertStatement e r).sql = Lite.returningText e.tableText columns keys ∧
      (keys = [] → Lite.adapt (insertStatement e r).sql = (insertStatement e r).sql) := by
  intro columns keys
  have hsql : (insertStatement e r).sql = Write.insertText (Text.schema? e.schema) e.table
      (named ((e.fields r).filter fun (c, _) => !c.isIdentity)) keys := by
    rw [insertStatement_eq]
    rfl
  have htable : bracketColumn (Text.schema? e.schema) e.table = e.tableText :=
    (Text.bracketTable_eq e.schema e.table).symm
  have hcolumns : (named ((e.fields r).filter fun (c, _) => !c.isIdentity)).map Prod.fst = columns := by
    rw [named, List.map_map]
    rfl
  have hadapt := Lite.adapt_insertText (isUnmarked_insertedNames hnames r)
  rw [← hsql] at hadapt
  refine ⟨?_, fun hnil => ?_⟩
  · rw [hadapt, htable, hcolumns]
  · rw [hadapt, Lite.returningText_of_nil hnil, hsql]

/-- Names that look like the table of inserted rows, one of them that of a schema and two of them those of keys. -/
theorem adapt_insertStatement_imitation :
    let e : Entity := ⟨[], "[Inserted].".toList, "a.b".toList,
      [{ name := "Inserted".toList, type := ⟨.int64, false⟩, isKey := true, isIdentity := true },
        { name := "[Inserted].[k".toList, type := ⟨.string, false⟩, isKey := true },
        { name := "OUTPUT".toList, type := ⟨.string, true⟩ }]⟩
    Lite.adapt (insertStatement e [.int 0, .string ['x'], .null]).sql =
      ("INSERT INTO [[Inserted]].].[a.b] ([[Inserted]].[k], [OUTPUT]) VALUES (@[Inserted].[k, @OUTPUT)".toList ++
        " RETURNING [Inserted], [[Inserted]].[k]".toList) := by
  intro e
  have h := adapt_insertStatement e [.int 0, .string ['x'], .null] (Lite.isUnmarked_of_occursIn rfl)
  exact h.1.trans (by decide +kernel)

end Repository

end EntityStore
