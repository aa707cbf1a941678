import EntityStore.Access.Join
import EntityStore.Proofs.Query.FormulaReading

/-!
# Join statements as they are read

What the statement of a chain says to whoever reads it: the selected columns with their labels, the first table, and
the tables joined to it, each with its alias and the predicate that it is joined on.  `JoinStatement.read?` is the
reader.  It knows the lexical rules of statements and cuts them into words at the spaces outside of names, literals
and parentheses, so that a predicate is one word, whatever it says.

Reading finds every statement again from its written form (`JoinStatement.read?_text`), provided that aliases are plain
words.
-/

namespace EntityStore

/-- A selected column: the alias of its table, its name, and the label under which it is answered. -/
structure SelectedColumn where
  tableAlias : Text
  column : Text
  label : Text

/-- A table, after its schema if it has one, with its alias. -/
structure AliasedTable where
  schema? : Option Text
  table : Text
  tableAlias : Text

/-- A table that is joined to those before it. -/
structure JoinedTable where
  kind : JoinKind
  source : AliasedTable
  on : Formula

/-- A statement that joins tables. -/
structure JoinStatement where
  selected : List SelectedColumn
  root : AliasedTable
  joined : List JoinedTable

/-! ### The written form -/

def SelectedColumn.tokens (c : SelectedColumn) : List Token :=
  betweenTokens (columnTokens (some c.tableAlias) c.column) "AS".toList [.string c.label]

/-- The tokens of selected columns with commas between them. -/
def SelectedColumn.listTokens : List SelectedColumn → List Token
  | [] => []
  | [c] => c.tokens
  | c :: d :: rest => c.tokens ++ .char ',' :: .char ' ' :: listTokens (d :: rest)

def AliasedTable.tokens (a : AliasedTable) : List Token :=
  columnTokens a.schema? a.table ++ .char ' ' :: Token.chars a.tableAlias

def JoinedTable.tokens (j : JoinedTable) : List Token :=
  Token.chars j.kind.keyword ++ .char ' ' :: betweenTokens j.source.tokens "ON".toList j.on.tokens

/-- The tokens of a table and of those joined to it. -/
def JoinStatement.sourceTokens (root : AliasedTable) (joined : List JoinedTable) : List Token :=
  root.tokens ++ joined.flatMap fun j => .char ' ' :: j.tokens

namespace JoinStatement

def tokens (st : JoinStatement) : List Token :=
  Token.chars "SELECT".toList ++ .char ' ' ::
    betweenTokens (SelectedColumn.listTokens st.selected) "FROM".toList (sourceTokens st.root st.joined)

/-- The written form of a statement. -/
def text (st : JoinStatement) : Text :=
  Token.spell st.tokens

/-- The labels under which the columns are answered, in the order in which they are selected. -/
def labels (st : JoinStatement) : List Text :=
  st.selected.map SelectedColumn.label

/-- The tables in the order in which they are introduced. -/
def tables (st : JoinStatement) : List AliasedTable :=
  st.root :: st.joined.map JoinedTable.source

end JoinStatement

/-- Whether a table can be told apart from what follows it: its alias has no spaces, brackets and the like. -/
def AliasedTable.isProper (a : AliasedTable) : Bool :=
  isWordText a.tableAlias && Token.isPlainText a.tableAlias

/-- Whether all aliases and predicates of a statement can be read. -/
structure JoinStatement.IsProper (st : JoinStatement) : Prop where
  root : st.root.isProper = true
  joined : ∀ j ∈ st.joined, j.source.isProper = true ∧ j.on.isProper = true

/-! ### The reader -/

namespace JoinStatement

open Formula (Word takeColumn? operand? operation?)

def table? (table tableAlias : Word) : Option AliasedTable :=
  match takeColumn? table with
  | some (schema?, name, []) => (Piece.text? tableAlias).map fun t => ⟨schema?, name, t⟩
  | _ => none

/-- The selected column that three words are. -/
def selected? (column word label : Word) : Option SelectedColumn :=
  match takeColumn? column, label with
  | some (some tableAlias, name, []), [.token (.string t)] =>
    if Piece.text? word = some "AS".toList then some ⟨tableAlias, name, t⟩ else none
  | _, _ => none

/-- The selected columns at the start of words, with the words that follow them; all but the last end with a comma. -/
def takeColumns? : List Word → Option (List SelectedColumn × List Word)
  | column :: word :: label :: ws =>
    match Piece.dropComma? label with
    | some label => do
      let c ← selected? column word label
      let (cs, ws) ← takeColumns? ws
      some (c :: cs, ws)
    | none => (selected? column word label).map fun c => ([c], ws)
  | _ => none

/-- The selection at the start of words, which is one empty word if nothing is selected. -/
def takeSelection? : List Word → Option (List SelectedColumn × List Word)
  | [] :: ws => some ([], ws)
  | ws => takeColumns? ws

/-- The kind of a join with the given first word, if OUTER follows it. -/
def outerKind? (word : Word) : Option JoinKind := do
  let t ← Piece.text? word
  if t = "LEFT".toList then some .left
  else if t = "RIGHT".toList then some .right
  else if t = "FULL".toList then some .full
  else none

/-- The kind of a join with the given first word, if OUTER does not follow it. -/
def innerKind? (word : Word) : Option JoinKind :=
  if Piece.text? word = some "INNER".toList then some .inner else none

/-- The joined table that the words after its kind are. -/
def joined? (kind? : Option JoinKind) (join table tableAlias on predicate : Word) : Option JoinedTable := do
  let kind ← kind?
  let source ← table? table tableAlias
  let f ← operand? predicate
  if Piece.text? join = some "JOIN".toList ∧ Piece.text? on = some "ON".toList then some ⟨kind, source, f⟩ else none

/-- The joined tables that words are. -/
def readJoined? : List Word → Option (List JoinedTable)
  | [] => some []
  | first :: second :: third :: fourth :: fifth :: sixth :: ws =>
    if Piece.text? second = some "OUTER".toList then
      match ws with
      | seventh :: ws => do
        let j ← joined? (outerKind? first) third fourth fifth sixth seventh
        let js ← readJoined? ws
        some (j :: js)
      | [] => none
    else do
      let j ← joined? (innerKind? first) second third fourth fifth sixth
      let js ← readJoined? ws
      some (j :: js)
  | _ => none

def ofWords? : List Word → Option JoinStatement
  | first :: ws => do
    let (selected, ws) ← takeSelection? ws
    match ws with
    | word :: table :: tableAlias :: ws => do
      let root ← table? table tableAlias
      let joined ← readJoined? ws
      if Piece.text? first = some "SELECT".toList ∧ Piece.text? word = some "FROM".toList then
        some ⟨selected, root, joined⟩
      else none
    | _ => none
  | [] => none

/-- Reads the text of a statement. -/
def read? (t : Text) : Option JoinStatement :=
  (readWords? operation? t).bind ofWords?

/-! ### Reading a statement back -/

private theorem spells_word {t : Text} (h : isWordText t = true) :
    Spells operation? (Token.chars t) [Piece.ofText t] :=
  (isWord_chars h).spells

private theorem exists_spells_table {a : AliasedTable} (h : a.isProper = true) :
    ∃ table, Spells operation? a.tokens [table, Piece.ofText a.tableAlias] ∧
      table? table (Piece.ofText a.tableAlias) = some a := by
  rw [AliasedTable.isProper, Bool.and_eq_true] at h
  refine ⟨_, (Formula.isWord_columnTokens a.schema? a.table).spells.space (spells_word h.1), ?_⟩
  rw [table?, Formula.takeColumn?_columnTokens]
  simp

private theorem spells_selected (c : SelectedColumn) {label : List Token} {w : Word}
    (h : IsWord operation? label w) :
    Spells operation? (betweenTokens (columnTokens (some c.tableAlias) c.column) "AS".toList label)
      [(columnTokens (some c.tableAlias) c.column).map .token, Piece.ofText "AS".toList, w] :=
  Formula.spells_betweenTokens (by decide) (Formula.isWord_columnTokens _ _).spells h.spells

private theorem selected?_columnTokens (c : SelectedColumn) :
    selected? ((columnTokens (some c.tableAlias) c.column).map .token) (Piece.ofText "AS".toList)
      [.token (.string c.label)] = some c := by
  simp [selected?, columnTokens, takeColumn?]

private theorem exists_spells_columns {cs : List SelectedColumn} (h : cs ≠ []) :
    ∃ ws, Spells operation? (SelectedColumn.listTokens cs) ws ∧ ∀ vs, takeColumns? (ws ++ vs) = some (cs, vs) := by
  fun_induction SelectedColumn.listTokens cs with
  | case1 => exact absurd rfl h
  | case2 c =>
    refine ⟨_, spells_selected c (isWord_token rfl), fun vs => ?_⟩
    simp only [List.cons_append, List.nil_append]
    rw [takeColumns?, selected?_columnTokens]
    rfl
  | case3 c d rest ih =>
    obtain ⟨ws, hspells, hread⟩ := ih (by simp)
    -- a comma belongs to the word of the label before it
    have hlabel : IsWord operation? [.string c.label, .char ','] [.token (.string c.label), .token (.char ',')] :=
      isWord_tokens (by simp [Token.isInWord])
    have hboth := (spells_selected c hlabel).space hspells
    have htokens : c.tokens ++ .char ',' :: .char ' ' :: SelectedColumn.listTokens (d :: rest) =
        betweenTokens (columnTokens (some c.tableAlias) c.column) "AS".toList [.string c.label, .char ','] ++
          .char ' ' :: SelectedColumn.listTokens (d :: rest) := by
      simp [SelectedColumn.tokens, betweenTokens]
    have hcomma : Piece.dropComma? [Piece.token (.string c.label), .token (.char ',')] =
        some ([.token (.string c.label)] : Word) := rfl
    rw [htokens]
    refine ⟨_, hboth, fun vs => ?_⟩
    simp only [List.cons_append, List.nil_append]
    rw [takeColumns?, hcomma]
    dsimp only
    rw [selected?_columnTokens, hread]
    rfl

private theorem takeSelection?_of_takeColumns? {ws vs : List Word} {cs : List SelectedColumn}
    (h : takeColumns? ws = some (cs, vs)) : takeSelection? ws = some (cs, vs) := by
  unfold takeSelection?
  split
  · next ws =>
    -- an empty word is no column
    have hnone (word label : Word) : selected? [] word label = none := rfl
    unfold takeColumns? at h
    split at h
    · next heq =>
      obtain rfl := (List.cons.inj heq).1
      split at h <;> simp [hnone] at h
    · simp at h
  · exact h

private theorem exists_spells_selection (cs : List SelectedColumn) :
    ∃ ws, Spells operation? (SelectedColumn.listTokens cs) ws ∧
      ∀ vs, takeSelection? (ws ++ vs) = some (cs, vs) := by
  by_cases h : cs = []
  · subst h
    exact ⟨[[]], ⟨[], nests_nil, rfl⟩, fun vs => rfl⟩
  · obtain ⟨ws, hspells, hread⟩ := exists_spells_columns h
    exact ⟨ws, hspells, fun vs => takeSelection?_of_takeColumns? (hread vs)⟩

private theorem readJoined?_outer {kind : JoinKind} {first table tableAlias predicate : Word} {vs : List Word}
    {j : JoinedTable} {js : List JoinedTable} (hkind : outerKind? first = some kind)
    (hj : joined? (some kind) (Piece.ofText "JOIN".toList) table tableAlias (Piece.ofText "ON".toList) predicate =
      some j) (hjs : readJoined? vs = some js) :
    readJoined? (first :: Piece.ofText "OUTER".toList :: Piece.ofText "JOIN".toList :: table :: tableAlias ::
      Piece.ofText "ON".toList :: predicate :: vs) = some (j :: js) := by
  rw [readJoined?, if_pos (Piece.text?_ofText _), hkind, hj, hjs]
  rfl

private theorem readJoined?_inner {kind : JoinKind} {first table tableAlias predicate : Word} {vs : List Word}
    {j : JoinedTable} {js : List JoinedTable} (hkind : innerKind? first = some kind)
    (hj : joined? (some kind) (Piece.ofText "JOIN".toList) table tableAlias (Piece.ofText "ON".toList) predicate =
      some j) (hjs : readJoined? vs = some js) :
    readJoined? (first :: Piece.ofText "JOIN".toList :: table :: tableAlias :: Piece.ofText "ON".toList ::
      predicate :: vs) = some (j :: js) := by
  unfold readJoined?
  rw [if_neg (by rw [Piece.text?_ofText]; decide), hkind, hj, hjs]
  rfl

private theorem exists_spells_keyword (kind : JoinKind) :
    ∃ ws, Spells operation? (Token.chars kind.keyword) ws ∧
      ∀ (table tableAlias predicate : Word) (vs : List Word) (j : JoinedTable) (js : List JoinedTable),
        joined? (some kind) (Piece.ofText "JOIN".toList) table tableAlias (Piece.ofText "ON".toList) predicate =
          some j →
        readJoined? vs = some js →
        readJoined? (ws ++ table :: tableAlias :: Piece.ofText "ON".toList :: predicate :: vs) = some (j :: js) := by
  have hjoin := spells_word (t := "JOIN".toList) (by decide)
  have houter := (spells_word (t := "OUTER".toList) (by decide)).space hjoin
  cases kind with
  | inner =>
    have hfirst := spells_word (t := "INNER".toList) (by decide)
    exact ⟨_, hfirst.space hjoin, fun _ _ _ _ _ _ => readJoined?_inner rfl⟩
  | left =>
    have hfirst := spells_word (t := "LEFT".toList) (by decide)
    exact ⟨_, hfirst.space houter, fun _ _ _ _ _ _ => readJoined?_outer rfl⟩
  | right =>
    have hfirst := spells_word (t := "RIGHT".toList) (by decide)
    exact ⟨_, hfirst.space houter, fun _ _ _ _ _ _ => readJoined?_outer rfl⟩
  | full =>
    have hfirst := spells_word (t := "FULL".toList) (by decide)
    exact ⟨_, hfirst.space houter, fun _ _ _ _ _ _ => readJoined?_outer rfl⟩

private theorem exists_spells_joined {j : JoinedTable} (hsource : j.source.isProper = true)
    (hon : j.on.isProper = true) :
    ∃ ws, Spells operation? j.tokens ws ∧
      ∀ vs js, readJoined? vs = some js → readJoined? (ws ++ vs) = some (j :: js) := by
  obtain ⟨keyword, hkeyword, hread⟩ := exists_spells_keyword j.kind
  obtain ⟨table, htable, hsource⟩ := exists_spells_table hsource
  obtain ⟨w, hw, hon⟩ := Formula.exists_isWord hon
  have hon' := Formula.spells_betweenTokens (show isWordText "ON".toList = true by decide) htable hw.spells
  refine ⟨_, hkeyword.space hon', ?_⟩
  intro vs js hjs
  have hj : joined? (some j.kind) (Piece.ofText "JOIN".toList) table (Piece.ofText j.source.tableAlias)
      (Piece.ofText "ON".toList) w = some j := by
    simp [joined?, hsource, hon]
  simpa using hread table _ w vs j js hj hjs

private theorem exists_spells_source {ts : List Token} {ws : List Word} {joined : List JoinedTable}
    (hts : Spells operation? ts ws) (h : ∀ j ∈ joined, j.source.isProper = true ∧ j.on.isProper = true) :
    ∃ vs, Spells operation? (ts ++ joined.flatMap fun j => .char ' ' :: j.tokens) (ws ++ vs) ∧
      readJoined? vs = some joined := by
  induction joined generalizing ts ws with
  | nil => exact ⟨[], by simpa using hts, rfl⟩
  | cons j joined ih =>
    obtain ⟨hsource, hon⟩ := h j (List.mem_cons_self ..)
    obtain ⟨us, hus, hread⟩ := exists_spells_joined hsource hon
    obtain ⟨vs, hvs, hrest⟩ := ih (hts.space hus) fun j' hj' => h j' (List.mem_cons_of_mem j hj')
    exact ⟨us ++ vs, by simpa using hvs, hread vs joined hrest⟩

open Token in
private theorem separated_table {a : AliasedTable} (h : a.isProper = true) : Separated a.tokens := by
  rw [AliasedTable.isProper, Bool.and_eq_true] at h
  exact (Formula.separated_columnTokens _ _).append_char (.cons_char rfl (separated_chars h.2))

open Token in
private theorem separated_columns (cs : List SelectedColumn) : Separated (SelectedColumn.listTokens cs) := by
  have hone (c : SelectedColumn) : Separated c.tokens :=
    Formula.separated_betweenTokens (by decide) (Formula.separated_columnTokens _ _) (separated_singleton rfl)
  fun_induction SelectedColumn.listTokens cs with
  | case1 => exact separated_nil
  | case2 c => exact hone c
  | case3 c d rest ih => exact (hone c).append_char (.cons_char rfl (.cons_char rfl ih))

open Token in
private theorem separated_joined {j : JoinedTable} (hsource : j.source.isProper = true)
    (hon : j.on.isProper = true) : Separated j.tokens := by
  have hkeyword : isPlainText j.kind.keyword = true := by cases j.kind <;> decide
  have hrest := Formula.separated_betweenTokens (show isPlainText "ON".toList = true by decide)
    (separated_table hsource) (Formula.separated_tokens j.on hon)
  exact (Separated.cons_char rfl hrest).chars_append hkeyword

open Token in
private theorem separated_source {ts : List Token} {joined : List JoinedTable} (hts : Separated ts)
    (h : ∀ j ∈ joined, j.source.isProper = true ∧ j.on.isProper = true) :
    Separated (ts ++ joined.flatMap fun j => .char ' ' :: j.tokens) := by
  induction joined generalizing ts with
  | nil => simpa using hts
  | cons j joined ih =>
    obtain ⟨hsource, hon⟩ := h j (List.mem_cons_self ..)
    have hfirst := hts.append_char (c := ' ') (.cons_char rfl (separated_joined hsource hon))
    simpa using ih hfirst fun j' hj' => h j' (List.mem_cons_of_mem j hj')

/-- Reading finds every proper statement again from its written form. -/
theorem read?_text {st : JoinStatement} (h : st.IsProper) : read? st.text = some st := by
  obtain ⟨columns, hcolumns, hselection⟩ := exists_spells_selection st.selected
  obtain ⟨table, htable, hroot⟩ := exists_spells_table h.root
  obtain ⟨vs, hsource, hjoined⟩ := exists_spells_source htable h.joined
  have hspells : Spells operation? st.tokens _ := (spells_word (by decide)).space
    (Formula.spells_betweenTokens (show isWordText "FROM".toList = true by decide) hcolumns hsource)
  have hseparated : Token.Separated st.tokens := by
    have hrest := Formula.separated_betweenTokens (show Token.isPlainText "FROM".toList = true by decide)
      (separated_columns st.selected) (separated_source (separated_table h.root) h.joined)
    exact (Token.Separated.cons_char rfl hrest).chars_append (by decide)
  rw [read?, text, hspells.readWords? hseparated, Option.bind_some]
  simp [ofWords?, hselection, hroot, hjoined]

end JoinStatement

end EntityStore
