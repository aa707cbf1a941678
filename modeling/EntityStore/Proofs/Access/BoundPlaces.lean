import EntityStore.Proofs.Access.Sending
import EntityStore.Proofs.Sql.Placeholder

/-!
# The places of a statement and the values bound to it

Names stand between brackets in the statement of a write, where every name can be told from what is around it.  The
places of its values are named after the columns too, and there nothing marks the end of a name: the places that are
found in the statement are those that values are bound to exactly if all of them are words
(`Write.placeholders?_text_iff`).
-/

namespace EntityStore

open Token

namespace Write

/-- The places that the values of fields are bound to. -/
def places (fields : WrittenFields) : List Text :=
  fields.map fun field => '@' :: field.1

private theorem follows_bracketColumn (schema? : Option Text) (table : Text) :
    Follows (Text.bracketColumn schema? table) [] := by
  cases schema? with
  | none => exact follows_bracket table
  | some schema =>
    have hpoint : Follows ".".toList [] := follows_mark (by decide) (by decide)
    exact (follows_bracket schema).append (hpoint.append (follows_bracket table))

private theorem follows_comma : Follows ", ".toList [] :=
  follows_mark (by decide) (by decide)

private theorem follows_equation {column : Text} (h : isPlace ('@' :: column) = true) :
    Follows (equation column) ['@' :: column] := by
  have hequals : Follows " = ".toList [] := follows_mark (by decide) (by decide)
  have htext : equation column = column.bracket ++ (" = ".toList ++ '@' :: column) := by
    simp [equation]
  rw [htext]
  exact (follows_bracket column).append (hequals.append (follows_place h))

private theorem follows_equationsText {separator : Text} (hseparator : Follows separator []) {fields : WrittenFields}
    (h : ∀ place ∈ places fields, isPlace place = true) :
    Follows (equationsText separator fields) (places fields) := by
  have hplaces := follows_joinWith hseparator fun field hfield => follows_equation (h _ (List.mem_map_of_mem hfield))
  rwa [← List.map_eq_flatMap] at hplaces

private theorem follows_outputText (keys : List Text) : Follows (outputText keys) [] := by
  unfold outputText
  split
  · exact follows_nil
  · have houtput : Follows " OUTPUT ".toList [] := follows_mark (by decide) (by decide)
    exact houtput.append (follows_joinWith_nil follows_comma (follows_bracketColumn (some "Inserted".toList)) keys)

private theorem follows_placesText {fields : WrittenFields} (h : ∀ place ∈ places fields, isPlace place = true) :
    Follows (Text.joinWith ", ".toList (fields.map fun field => '@' :: field.1)) (places fields) := by
  have hplaces := follows_joinWith follows_comma fun field hfield => follows_place (h _ (List.mem_map_of_mem hfield))
  rwa [← List.map_eq_flatMap] at hplaces

private theorem hasPlaces_insertText (schema? : Option Text) (table : Text) (keys : List Text) {fields : WrittenFields}
    (h : ∀ place ∈ places fields, isPlace place = true) :
    HasPlaces (insertText schema? table fields keys) (places fields) := by
  have hinto : HasPlaces "INSERT INTO ".toList [] := hasPlaces_plain (by decide)
  have hopen : Follows " (".toList [] := follows_mark (by decide) (by decide)
  have hclose : Follows ")".toList [] := follows_mark (by decide) (by decide)
  have hvalues : Follows " VALUES (".toList [] := follows_mark (by decide) (by decide)
  have hnames : Follows (Text.joinWith ", ".toList (fields.map fun field => Text.bracket field.1)) [] :=
    follows_joinWith_nil follows_comma (fun field => follows_bracket field.1) fields
  have hcolumns := (((hinto.append (follows_bracketColumn schema? table)).append hopen).append hnames).append hclose
  have hanswered := (hcolumns.append (follows_outputText keys)).append hvalues
  have hall := (hanswered.append (follows_placesText h)).append hclose
  unfold insertText
  simpa only [List.nil_append, List.append_nil] using hall

private theorem follows_where : Follows " WHERE ".toList [] :=
  follows_mark (by decide) (by decide)

private theorem follows_and : Follows " AND ".toList [] :=
  follows_mark (by decide) (by decide)

private theorem hasPlaces_updateText (schema? : Option Text) (table : Text) {assigned compared : WrittenFields}
    (h : ∀ place ∈ places (assigned ++ compared), isPlace place = true) :
    HasPlaces (updateText schema? table assigned compared) (places (assigned ++ compared)) := by
  have hmore : places (assigned ++ compared) = places assigned ++ places compared := List.map_append
  rw [hmore, List.forall_mem_append] at h
  have hupdate : HasPlaces "UPDATE ".toList [] := hasPlaces_plain (by decide)
  have hset : Follows " SET ".toList [] := follows_mark (by decide) (by decide)
  have hassigned := ((hupdate.append (follows_bracketColumn schema? table)).append hset).append
    (follows_equationsText follows_comma h.1)
  have hall := (hassigned.append follows_where).append (follows_equationsText follows_and h.2)
  unfold updateText
  simpa only [hmore, List.nil_append, List.append_nil] using hall

private theorem hasPlaces_deleteText (schema? : Option Text) (table : Text) {compared : WrittenFields}
    (h : ∀ place ∈ places compared, isPlace place = true) :
    HasPlaces (deleteText schema? table compared) (places compared) := by
  have hdelete : HasPlaces "DELETE FROM ".toList [] := hasPlaces_plain (by decide)
  have hall := ((hdelete.append (follows_bracketColumn schema? table)).append follows_where).append
    (follows_equationsText follows_and h)
  unfold deleteText
  simpa only [List.nil_append] using hall

/-- The places of a write are found if all of them are words. -/
theorem hasPlaces_text {w : Write} (h : ∀ place ∈ places w.fields, isPlace place = true) :
    HasPlaces w.text (places w.fields) := by
  cases w with
  | insert schema? table fields keys => exact hasPlaces_insertText schema? table keys h
  | update schema? table assigned compared => exact hasPlaces_updateText schema? table h
  | delete schema? table compared => exact hasPlaces_deleteText schema? table h

/-- The places that are found in a write are those that values are bound to exactly if all of them are words. -/
theorem placeholders?_text_iff (w : Write) :
    placeholders? w.text = some (places w.fields) ↔ ∀ place ∈ places w.fields, isPlace place = true :=
  ⟨fun h _ hmem => isPlace_of_mem_placeholders? h hmem, fun h => (hasPlaces_text h).placeholders?⟩

theorem placeholders?_statement_iff (w : Write) :
    placeholders? w.statement.sql = some (w.statement.bindings.map Binding.name) ↔
      ∀ b ∈ w.statement.bindings, isPlace b.name = true := by
  have hplaces : w.statement.bindings.map Binding.name = places w.fields := by
    rw [places, statement, bindings, List.map_map]
    rfl
  have hwords : (∀ b ∈ w.statement.bindings, isPlace b.name = true) ↔
      ∀ place ∈ places w.fields, isPlace place = true := by
    rw [← hplaces, List.forall_mem_map]
  rw [hplaces, hwords]
  exact w.placeholders?_text_iff

end Write

/-! ### Operations -/

/-- An entity of which no name is a word. -/
def Entity.bracketed : Entity :=
  ⟨"We'ird".toList, [], "ta]ble".toList,
    [{ name := "it's".toList, type := ⟨.string, true⟩ },
      { name := "k]ey".toList, type := ⟨.string, false⟩, isKey := true },
      { name := "Ünï cödé".toList, type := ⟨.xml, true⟩, isRequired := true, maxLength? := some 2 }]⟩

namespace Operation

variable {α : Type} {e : Entity} {op : Operation α} {s : Session} {st : Statement}

/-- In every statement that is handed over to write a record, the places that are found are those that values are bound
to, in order, exactly if all of these are words. -/
theorem places_bound_iff (hop : op.writesRecords = true) (h : op.Hands e s st) :
    placeholders? st.sql = some (st.bindings.map Binding.name) ↔ ∀ b ∈ st.bindings, isPlace b.name = true := by
  obtain ⟨w, rfl⟩ := h.exists_write hop
  exact w.placeholders?_statement_iff

/-- The insertion of a record into columns of which one is named with letters that are not ASCII. -/
theorem places_bound_insertion :
    let e : Entity := ⟨['E'], [], "t@1".toList,
      [{ name := "Größe_2".toList, type := ⟨.int32, false⟩ }, { name := ['b'], type := ⟨.string, false⟩ }]⟩
    let r : Record := [.int 7, .string "@b".toList]
    (create r).Hands e {} (Repository.insertStatement e r) ∧
      placeholders? (Repository.insertStatement e r).sql = some ["@Größe_2".toList, "@b".toList] := by
  intro e r
  have hhands : (create r).Hands e {} (Repository.insertStatement e r) :=
    hands_of_statements (by decide) rfl (by decide) (List.mem_singleton_self _)
  exact ⟨hhands, (places_bound_iff rfl hhands).mpr (by decide +kernel)⟩

/-- The deletion of a record whose key is no word: what is found is not what the value is bound to. -/
theorem not_places_bound_bracketed :
    let e := Entity.bracketed
    let r : Record := [.null, .string ['x'], .null]
    (e.columns.map Column.name).Nodup ∧ (∀ c ∈ e.columns, c.name ≠ []) ∧
      ∃ st, (delete r).Hands e {} st ∧ placeholders? st.sql = some ["@k".toList] ∧
        st.bindings.map Binding.name ≠ ["@k".toList] := by
  intro e r
  have hhands : (delete r).Hands e {} (Repository.deleteStatement e (e.columns[1], .string ['x'])) :=
    hands_of_statements (by decide) rfl (by decide) (List.mem_singleton_self _)
  exact ⟨by decide, by decide, _, hhands, by decide +kernel, by decide⟩

end Operation

end EntityStore
