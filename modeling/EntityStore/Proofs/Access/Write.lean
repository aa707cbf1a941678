import EntityStore.Access.Session
import EntityStore.Proofs.Sql.NameReading

/-!
# Writes as they are read

What a statement that inserts, updates or deletes says together with the values bound to it: the table, the columns
that are set and those that are compared, each with its own value.  `Statement.write?` is the reader.  It takes the
bound values one after the other, each at the place that has its name, and pairs them with the columns that stand
there, so that a value which is bound out of turn is found with another column or not at all.

Reading finds every write again from its statement (`Write.write?_statement`), whatever its names are.
-/

namespace EntityStore

/-- The columns of a write, each with its value. -/
abbrev WrittenFields := List (Text × Value)

/-- What a statement that writes says. -/
inductive Write where
  /-- Insert a row with the fields, and answer its keys. -/
  | insert (schema? : Option Text) (table : Text) (fields : WrittenFields) (keys : List Text)
  /-- Set the first fields in the rows that agree with all of the second. -/
  | update (schema? : Option Text) (table : Text) (assigned compared : WrittenFields)
  /-- Delete the rows that agree with all fields. -/
  | delete (schema? : Option Text) (table : Text) (compared : WrittenFields)

namespace Write

open Text (bracket bracketColumn joinWith dropMark? readName? readQualifiedName?)

/-- All fields in the order in which their values are bound. -/
def fields : Write → WrittenFields
  | insert _ _ fields _ => fields
  | update _ _ assigned compared => assigned ++ compared
  | delete _ _ compared => compared

/-- The fields that a row has to agree with. -/
def compared : Write → WrittenFields
  | insert _ _ _ _ => []
  | update _ _ _ compared | delete _ _ compared => compared

/-- Something is set, and something is compared. -/
def IsProper : Write → Prop
  | insert _ _ _ _ => True
  | update _ _ assigned compared => assigned ≠ [] ∧ compared ≠ []
  | delete _ _ compared => compared ≠ []

/-! ### The written form -/

/-- A column that is set to its place or compared with it. -/
def equation (column : Text) : Text :=
  bracket column ++ " = @".toList ++ column

/-- The keys that an insertion answers. -/
def outputText (keys : List Text) : Text :=
  if keys = [] then []
  else " OUTPUT ".toList ++ joinWith ", ".toList (keys.map fun k => "[Inserted].".toList ++ bracket k)

/-- The equations of fields, with a text between them. -/
def equationsText (separator : Text) (fields : WrittenFields) : Text :=
  joinWith separator (fields.map fun field => equation field.1)

def insertText (schema? : Option Text) (table : Text) (fields : WrittenFields) (keys : List Text) : Text :=
  "INSERT INTO ".toList ++ bracketColumn schema? table ++ " (".toList ++
    joinWith ", ".toList (fields.map fun field => bracket field.1) ++ ")".toList ++ outputText keys ++
    " VALUES (".toList ++ joinWith ", ".toList (fields.map fun field => '@' :: field.1) ++ ")".toList

/-- The text of an insertion depends on the names of its columns alone. -/
theorem insertText_congr {fields fields' : WrittenFields} (h : fields.map Prod.fst = fields'.map Prod.fst)
    (schema? : Option Text) (table : Text) (keys : List Text) :
    insertText schema? table fields keys = insertText schema? table fields' keys := by
  have hmap (f : Text → Text) : (fields.map fun field => f field.1) = fields'.map fun field => f field.1 := by
    simpa only [List.map_map, Function.comp_def] using congrArg (List.map f) h
  unfold insertText
  rw [hmap bracket, hmap ('@' :: ·)]

def updateText (schema? : Option Text) (table : Text) (assigned compared : WrittenFields) : Text :=
  "UPDATE ".toList ++ bracketColumn schema? table ++ " SET ".toList ++ equationsText ", ".toList assigned ++
    " WHERE ".toList ++ equationsText " AND ".toList compared

def deleteText (schema? : Option Text) (table : Text) (compared : WrittenFields) : Text :=
  "DELETE FROM ".toList ++ bracketColumn schema? table ++ " WHERE ".toList ++ equationsText " AND ".toList compared

/-- The written form of a write. -/
def text : Write → Text
  | insert schema? table fields keys => insertText schema? table fields keys
  | update schema? table assigned compared => updateText schema? table assigned compared
  | delete schema? table compared => deleteText schema? table compared

/-- Insertions that answer keys ask for rows, all other writes for the number of rows that they change. -/
def kind : Write → StatementKind
  | insert _ _ _ keys => if keys = [] then .execute else .query
  | _ => .execute

/-- The values of fields, bound to the places that are named after their columns. -/
def bindings (fields : WrittenFields) : List Binding :=
  fields.map fun (column, v) => .ofColumn column v

/-- The statement of a write. -/
def statement (w : Write) : Statement :=
  ⟨w.kind, w.text, bindings w.fields⟩

/-! ### The reader -/

/-- Reads as many names as there are values bound. -/
def readColumns? : List Binding → Text → Option (WrittenFields × Text)
  | [], t => some ([], t)
  | [b], t => (readName? t).map fun (column, t) => ([(column, b.value)], t)
  | b :: c :: bs, t => do
    let (column, t) ← readName? t
    let t ← dropMark? ", ".toList t
    let (fields, t) ← readColumns? (c :: bs) t
    some ((column, b.value) :: fields, t)

/-- Reads a column that is set to the place of a bound value or compared with it. -/
def readEquation? (b : Binding) (t : Text) : Option ((Text × Value) × Text) := do
  let (column, t) ← readName? t
  let t ← dropMark? (" = ".toList ++ b.name) t
  some ((column, b.value), t)

/-- Reads equations with the separator between them, each at the place of the next bound value; what remains of the
bound values and of the text comes after them. -/
def readEquations? (separator : Text) : List Binding → Text → Option (WrittenFields × List Binding × Text)
  | [], _ => none
  | b :: bs, t => do
    let (field, t) ← readEquation? b t
    match dropMark? separator t with
    | none => some ([field], bs, t)
    | some t => do
      let (fields, bs, t) ← readEquations? separator bs t
      some (field :: fields, bs, t)

/-- Reads keys with commas between them. -/
def readKeys? (t : Text) : Option (List Text × Text) :=
  match _h : (dropMark? "[Inserted].".toList t).bind readName? with
  | none => none
  | some (key, after) =>
    match _h' : dropMark? ", ".toList after with
    | none => some ([key], after)
    | some rest => (readKeys? rest).map fun (keys, after) => (key :: keys, after)
  termination_by t.length
  decreasing_by
    obtain ⟨u, hu, hread⟩ := Option.bind_eq_some_iff.mp _h
    rw [Text.dropMark?_eq_some_iff] at hu _h'
    rw [hu, (Text.readName?_eq_some_iff.mp hread).1, _h']
    simp
    omega

/-- Reads the keys that an insertion answers, if it answers any. -/
def readOutput? (t : Text) : Option (List Text × Text) :=
  match dropMark? " OUTPUT ".toList t with
  | none => some ([], t)
  | some t => readKeys? t

def readInsert? (bs : List Binding) (t : Text) : Option Write := do
  let t ← dropMark? "INSERT INTO ".toList t
  let (schema?, table, t) ← readQualifiedName? t
  let t ← dropMark? " (".toList t
  let (fields, t) ← readColumns? bs t
  let t ← dropMark? ")".toList t
  let (keys, t) ← readOutput? t
  if t = " VALUES (".toList ++ (joinWith ", ".toList (bs.map Binding.name) ++ ")".toList) then
    some (insert schema? table fields keys)
  else none

def readUpdate? (bs : List Binding) (t : Text) : Option Write := do
  let t ← dropMark? "UPDATE ".toList t
  let (schema?, table, t) ← readQualifiedName? t
  let t ← dropMark? " SET ".toList t
  let (assigned, bs, t) ← readEquations? ", ".toList bs t
  let t ← dropMark? " WHERE ".toList t
  match readEquations? " AND ".toList bs t with
  | some (compared, [], []) => some (update schema? table assigned compared)
  | _ => none

def readDelete? (bs : List Binding) (t : Text) : Option Write := do
  let t ← dropMark? "DELETE FROM ".toList t
  let (schema?, table, t) ← readQualifiedName? t
  let t ← dropMark? " WHERE ".toList t
  match readEquations? " AND ".toList bs t with
  | some (compared, [], []) => some (delete schema? table compared)
  | _ => none

end Write

/-- Reads what a statement says together with the values bound to it. -/
def Statement.write? (st : Statement) : Option Write :=
  (Write.readInsert? st.bindings st.sql).or
    ((Write.readUpdate? st.bindings st.sql).or (Write.readDelete? st.bindings st.sql))

/-- A statement reads as a write, and binds the values of its fields in order. -/
structure Statement.Says (st : Statement) (w : Write) : Prop where
  write?_eq : st.write? = some w
  bindings_eq : st.bindings = Write.bindings w.fields

namespace Write

open Text (bracket bracketColumn joinWith dropMark? readName? readQualifiedName?)

/-! ### Reading a write back -/

private theorem dropMark?_append (mark t : Text) : dropMark? mark (mark ++ t) = some t :=
  Text.dropMark?_eq_some_iff.mpr rfl

private theorem head?_mark {mark : Text} (hne : mark ≠ []) (t : Text) : (mark ++ t).head? = mark.head? := by
  cases mark with
  | nil => exact absurd rfl hne
  | cons c mark => rfl

/-- A name is read in front of a mark that does not go on with it. -/
private theorem readName?_mark {mark : Text} (hne : mark ≠ []) (h : mark.head? ≠ some ']') (name t : Text) :
    readName? (bracket name ++ (mark ++ t)) = some (name, mark ++ t) := by
  exact Text.readName?_bracket (head?_mark hne t ▸ h) name

private theorem readColumns?_bindings (fields : WrittenFields) {t : Text} (h : t.head? ≠ some ']') :
    readColumns? (bindings fields) (joinWith ", ".toList (fields.map fun field => bracket field.1) ++ t) =
      some (fields, t) := by
  induction fields with
  | nil => rfl
  | cons field rest ih =>
    cases rest with
    | nil =>
      show (readName? (bracket field.1 ++ t)).map _ = _
      rw [Text.readName?_bracket h]
      rfl
    | cons next rest =>
      simp only [bindings, List.map_cons, joinWith, List.append_assoc] at ih ⊢
      rw [readColumns?, readName?_mark (by decide) (by decide)]
      simp only [Option.bind_eq_bind, Option.bind_some, dropMark?_append, ih]
      rfl

private theorem readEquation?_equation (column : Text) (v : Value) (t : Text) :
    readEquation? (.ofColumn column v) (equation column ++ t) = some ((column, v), t) := by
  have htext : equation column ++ t = bracket column ++ ((" = ".toList ++ '@' :: column) ++ t) := by
    simp [equation]
  rw [readEquation?, htext, readName?_mark (by simp) (by simp)]
  simp only [Option.bind_eq_bind, Option.bind_some, Binding.ofColumn, dropMark?_append]

/-- The fields are read in front of a text that does not go on with them, and only their values are used up. -/
private theorem readEquations?_bindings {separator : Text} {fields : WrittenFields} (hne : fields ≠ []) {t : Text}
    (h : dropMark? separator t = none) (bs : List Binding) :
    readEquations? separator (bindings fields ++ bs) (equationsText separator fields ++ t) = some (fields, bs, t) := by
  induction fields with
  | nil => exact absurd rfl hne
  | cons field rest ih =>
    cases rest with
    | nil =>
      show readEquations? separator (.ofColumn field.1 field.2 :: bs) (equation field.1 ++ t) = _
      simp only [readEquations?, readEquation?_equation, Option.bind_eq_bind, Option.bind_some, h]
    | cons next rest =>
      have hread := ih (List.cons_ne_nil next rest)
      simp only [bindings, equationsText, List.map_cons, List.cons_append, joinWith, List.append_assoc] at hread ⊢
      rw [readEquations?, readEquation?_equation]
      simp only [Option.bind_eq_bind, Option.bind_some, dropMark?_append, hread]

private theorem readKeys?_key (key : Text) {t : Text} (h : t.head? ≠ some ']') :
    readKeys? ("[Inserted].".toList ++ bracket key ++ t) = match dropMark? ", ".toList t with
      | none => some ([key], t)
      | some rest => (readKeys? rest).map fun (keys, after) => (key :: keys, after) := by
  have hread : (dropMark? "[Inserted].".toList ("[Inserted].".toList ++ bracket key ++ t)).bind readName? =
      some (key, t) := by
    rw [List.append_assoc, dropMark?_append, Option.bind_some, Text.readName?_bracket h]
  rw [readKeys?]
  split
  · next hnone =>
    rw [hread] at hnone
    exact absurd hnone (Option.some_ne_none _)
  · next key' after hsome =>
    rw [hread] at hsome
    obtain ⟨rfl, rfl⟩ := Prod.mk.inj (Option.some.inj hsome)
    split
    · next hnone => rw [hnone]
    · next rest hrest => rw [hrest]

private theorem readKeys?_keys {keys : List Text} (hne : keys ≠ []) {t : Text} (h : t.head? ≠ some ']')
    (hcomma : dropMark? ", ".toList t = none) :
    readKeys? (joinWith ", ".toList (keys.map fun k => "[Inserted].".toList ++ bracket k) ++ t) = some (keys, t) := by
  induction keys with
  | nil => exact absurd rfl hne
  | cons key rest ih =>
    cases rest with
    | nil =>
      rw [List.map_singleton, joinWith, readKeys?_key key h, hcomma]
    | cons next rest =>
      have hread := ih (List.cons_ne_nil next rest)
      simp only [List.map_cons, joinWith] at hread ⊢
      rw [List.append_assoc, List.append_assoc _ ", ".toList, readKeys?_key key (by simp), dropMark?_append]
      simp only [hread, Option.map_some]

/-- The keys are read in front of the values. -/
private theorem readOutput?_outputText (keys : List Text) (t : Text) :
    readOutput? (outputText keys ++ (" VALUES (".toList ++ t)) = some (keys, " VALUES (".toList ++ t) := by
  by_cases hkeys : keys = []
  · subst hkeys
    rfl
  · rw [outputText, if_neg hkeys, List.append_assoc, readOutput?, dropMark?_append]
    exact readKeys?_keys hkeys (by simp) rfl

/-- A table is read in front of a mark that does not go on with it. -/
private theorem readQualifiedName?_mark {mark : Text} (hne : mark ≠ []) (hbracket : mark.head? ≠ some ']')
    (hpoint : mark.head? ≠ some '.') (schema? : Option Text) (table t : Text) :
    readQualifiedName? (bracketColumn schema? table ++ (mark ++ t)) = some (schema?, table, mark ++ t) := by
  exact Text.readQualifiedName?_bracketColumn schema? table (head?_mark hne t ▸ hbracket) (head?_mark hne t ▸ hpoint)

private theorem readInsert?_insertText (schema? : Option Text) (table : Text) (fields : WrittenFields)
    (keys : List Text) :
    readInsert? (bindings fields) (insertText schema? table fields keys) =
      some (insert schema? table fields keys) := by
  have hplaces : (fields.map fun field => '@' :: field.1) = (bindings fields).map Binding.name := by
    simp [bindings, Binding.ofColumn]
  unfold readInsert? insertText
  simp only [hplaces, List.append_assoc]
  refine Option.bind_eq_some_iff.mpr ⟨_, dropMark?_append _ _, ?_⟩
  refine Option.bind_eq_some_iff.mpr ⟨_, readQualifiedName?_mark (by decide) (by decide) (by decide) _ _ _, ?_⟩
  refine Option.bind_eq_some_iff.mpr ⟨_, dropMark?_append _ _, ?_⟩
  refine Option.bind_eq_some_iff.mpr ⟨_, readColumns?_bindings fields (by simp), ?_⟩
  refine Option.bind_eq_some_iff.mpr ⟨_, dropMark?_append _ _, ?_⟩
  refine Option.bind_eq_some_iff.mpr ⟨_, readOutput?_outputText keys _, ?_⟩
  exact if_pos rfl

/-- Equations at the end of a text use up all values. -/
private theorem readEquations?_end {separator : Text} (hmark : separator ≠ []) {fields : WrittenFields}
    (hne : fields ≠ []) :
    readEquations? separator (bindings fields) (equationsText separator fields) = some (fields, [], []) := by
  have hnone : dropMark? separator [] = none := by
    cases separator with
    | nil => exact absurd rfl hmark
    | cons c separator => rfl
  simpa using readEquations?_bindings hne hnone []

private theorem readUpdate?_updateText (schema? : Option Text) (table : Text) {assigned compared : WrittenFields}
    (hassigned : assigned ≠ []) (hcompared : compared ≠ []) :
    readUpdate? (bindings (assigned ++ compared)) (updateText schema? table assigned compared) =
      some (update schema? table assigned compared) := by
  have hbindings : bindings (assigned ++ compared) = bindings assigned ++ bindings compared := List.map_append
  unfold readUpdate? updateText
  simp only [hbindings, List.append_assoc]
  refine Option.bind_eq_some_iff.mpr ⟨_, dropMark?_append _ _, ?_⟩
  refine Option.bind_eq_some_iff.mpr ⟨_, readQualifiedName?_mark (by decide) (by decide) (by decide) _ _ _, ?_⟩
  refine Option.bind_eq_some_iff.mpr ⟨_, dropMark?_append _ _, ?_⟩
  refine Option.bind_eq_some_iff.mpr ⟨_, readEquations?_bindings hassigned rfl _, ?_⟩
  refine Option.bind_eq_some_iff.mpr ⟨_, dropMark?_append _ _, ?_⟩
  dsimp only
  rw [readEquations?_end (by decide) hcompared]

private theorem readDelete?_deleteText (schema? : Option Text) (table : Text) {compared : WrittenFields}
    (hcompared : compared ≠ []) :
    readDelete? (bindings compared) (deleteText schema? table compared) = some (delete schema? table compared) := by
  unfold readDelete? deleteText
  simp only [List.append_assoc]
  refine Option.bind_eq_some_iff.mpr ⟨_, dropMark?_append _ _, ?_⟩
  refine Option.bind_eq_some_iff.mpr ⟨_, readQualifiedName?_mark (by decide) (by decide) (by decide) _ _ _, ?_⟩
  refine Option.bind_eq_some_iff.mpr ⟨_, dropMark?_append _ _, ?_⟩
  dsimp only
  rw [readEquations?_end (by decide) hcompared]

/-- Reading finds every write again from its statement. -/
theorem write?_statement {w : Write} (h : w.IsProper) : w.statement.write? = some w := by
  -- the first words tell the three kinds of writes apart
  cases w with
  | insert schema? table fields keys =>
    have hread := readInsert?_insertText schema? table fields keys
    simp only [Statement.write?, statement, text, Write.fields, hread, Option.some_or]
  | update schema? table assigned compared =>
    have hinsert : readInsert? (bindings (assigned ++ compared)) (updateText schema? table assigned compared) = none :=
      rfl
    have hread := readUpdate?_updateText schema? table h.1 h.2
    simp only [Statement.write?, statement, text, Write.fields, hinsert, hread, Option.none_or, Option.some_or]
  | delete schema? table compared =>
    have hinsert : readInsert? (bindings compared) (deleteText schema? table compared) = none := rfl
    have hupdate : readUpdate? (bindings compared) (deleteText schema? table compared) = none := rfl
    have hread := readDelete?_deleteText schema? table h
    simp only [Statement.write?, statement, text, Write.fields, hinsert, hupdate, hread, Option.none_or]

theorem says_statement {w : Write} (h : w.IsProper) : w.statement.Says w :=
  ⟨write?_statement h, rfl⟩

end Write

end EntityStore
