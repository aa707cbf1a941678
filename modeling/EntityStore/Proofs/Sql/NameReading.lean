import EntityStore.Proofs.Text.Doubling
import Mathlib.Logic.Function.Basic

/-!
# Names are read as they were written

A bracketed name can be read wherever it stands, unless another closing bracket follows it, and so can a name with
one more name before it.  Reading is exact: it succeeds on the texts that start with a name in its written form and on
no others (`readName?_eq_some_iff`, `readQualifiedName?_eq_some_iff`).  What stands in a name is of no account, so a
name of one part never looks like one of two, and different names are written differently (`names_readable`).
-/

namespace EntityStore.Text

/-- Reads a bracketed name that a text starts with; the second part is what follows it. -/
def readName? : Text → Option (Text × Text)
  | '[' :: rest => readUpTo? ']' rest
  | _ => none

/-- Reads a bracketed name, after one more name if a point stands between them; the last part is what follows. -/
def readQualifiedName? (t : Text) : Option (Option Text × Text × Text) :=
  match readName? t with
  | some (qualifier, '.' :: rest) => (readName? rest).map fun (name, after) => (some qualifier, name, after)
  | some (name, after) => some (none, name, after)
  | none => none

theorem readName?_eq_some_iff {t name after : Text} :
    readName? t = some (name, after) ↔ t = name.bracket ++ after ∧ after.head? ≠ some ']' := by
  have hbracket : name.bracket ++ after = '[' :: (name.doubled ']' ++ ']' :: after) := by
    simp [bracket, doubleBrackets_eq]
  rw [hbracket]
  constructor
  · intro h
    unfold readName? at h
    split at h
    · next rest =>
      obtain ⟨hrest, hafter⟩ := eq_doubled_of_readUpTo? h
      exact ⟨congrArg _ hrest, hafter⟩
    · simp at h
  · rintro ⟨rfl, hafter⟩
    exact readUpTo?_doubled hafter name

theorem readName?_bracket {after : Text} (h : after.head? ≠ some ']') (name : Text) :
    readName? (name.bracket ++ after) = some (name, after) :=
  readName?_eq_some_iff.mpr ⟨rfl, h⟩

/-- A name of one part is read where neither a bracket nor a point follows, a name of two parts where no bracket
follows. -/
theorem readQualifiedName?_eq_some_iff {t : Text} {qualifier? : Option Text} {name after : Text} :
    readQualifiedName? t = some (qualifier?, name, after) ↔
      t = bracketColumn qualifier? name ++ after ∧ after.head? ≠ some ']' ∧
        (qualifier? = none → after.head? ≠ some '.') := by
  constructor
  · intro h
    unfold readQualifiedName? at h
    split at h
    · next qualifier rest hread =>
      obtain ⟨rfl, -⟩ := readName?_eq_some_iff.mp hread
      obtain ⟨⟨name', after'⟩, hrest, heq⟩ := Option.map_eq_some_iff.mp h
      obtain ⟨rfl, rfl, rfl⟩ := by simpa using heq
      obtain ⟨rfl, hafter⟩ := readName?_eq_some_iff.mp hrest
      exact ⟨by simp [bracketColumn], hafter, by simp⟩
    · next name' after' hpoint hread =>
      obtain ⟨rfl, hafter⟩ := readName?_eq_some_iff.mp hread
      obtain ⟨rfl, rfl, rfl⟩ := by simpa using h
      refine ⟨rfl, hafter, fun _ hhead => ?_⟩
      obtain ⟨rest, rfl⟩ := List.head?_eq_some_iff.mp hhead
      exact hpoint rest rfl
    · simp at h
  · rintro ⟨rfl, hbracket, hpoint⟩
    cases qualifier? with
    | some qualifier =>
      have hread : readName? (bracketColumn (some qualifier) name ++ after) =
          some (qualifier, '.' :: (name.bracket ++ after)) := by
        rw [bracketColumn, List.append_assoc, List.cons_append]
        exact readName?_bracket (by simp) qualifier
      simp [readQualifiedName?, hread, readName?_bracket hbracket]
    | none =>
      have hread : readName? (bracketColumn none name ++ after) = some (name, after) :=
        readName?_bracket hbracket name
      rw [readQualifiedName?, hread]
      split
      · next qualifier rest heq =>
        obtain ⟨-, rfl⟩ := by simpa using heq
        exact absurd rfl (hpoint rfl)
      · next name' after' _ heq =>
        obtain ⟨rfl, rfl⟩ := by simpa using heq
        rfl
      · next heq => simp at heq

theorem readQualifiedName?_bracketColumn (qualifier? : Option Text) (name : Text) {after : Text}
    (hbracket : after.head? ≠ some ']') (hpoint : after.head? ≠ some '.') :
    readQualifiedName? (bracketColumn qualifier? name ++ after) = some (qualifier?, name, after) :=
  readQualifiedName?_eq_some_iff.mpr ⟨rfl, hbracket, fun _ => hpoint⟩

/-- The schema of a table, which is absent if it is empty. -/
def schema? (schema : Text) : Option Text :=
  if schema = [] then none else some schema

theorem bracketTable_eq (schema table : Text) : bracketTable schema table = bracketColumn (schema? schema) table := by
  cases schema <;> rfl

theorem schema?_injective : Function.Injective schema? := by
  intro schema schema' h
  unfold schema? at h
  split at h <;> split at h <;> simp_all

theorem bracketColumn_inj {qualifier? qualifier'? : Option Text} {name name' : Text} :
    bracketColumn qualifier? name = bracketColumn qualifier'? name' ↔ qualifier? = qualifier'? ∧ name = name' := by
  constructor
  · intro h
    have hread (qualifier? : Option Text) (name : Text) :
        readQualifiedName? (bracketColumn qualifier? name ++ []) = some (qualifier?, name, []) :=
      readQualifiedName?_bracketColumn qualifier? name (by simp) (by simp)
    have hboth := hread qualifier? name
    rw [h, hread qualifier'? name'] at hboth
    simpa [eq_comm] using hboth
  · rintro ⟨rfl, rfl⟩
    rfl

/-- Names are found again in front of anything that does not go on with them: a name by itself, a column after the
alias of its table if it has one, and a table after its schema unless that is empty.  So different columns are written
differently, and so are different tables. -/
theorem names_readable :
    (∀ name after : Text, after.head? ≠ some ']' → readName? (name.bracket ++ after) = some (name, after)) ∧
    (∀ (alias? : Option Text) (name after : Text), after.head? ≠ some ']' → after.head? ≠ some '.' →
      readQualifiedName? (bracketColumn alias? name ++ after) = some (alias?, name, after)) ∧
    (∀ schema table after : Text, after.head? ≠ some ']' → after.head? ≠ some '.' →
      readQualifiedName? (bracketTable schema table ++ after) =
        some (if schema = [] then none else some schema, table, after)) ∧
    (∀ (alias? alias'? : Option Text) (name name' : Text),
      bracketColumn alias? name = bracketColumn alias'? name' ↔ alias? = alias'? ∧ name = name') ∧
    (∀ schema schema' table table' : Text,
      bracketTable schema table = bracketTable schema' table' ↔ schema = schema' ∧ table = table') := by
  refine ⟨fun name after h => readName?_bracket h name,
    fun alias? name after => readQualifiedName?_bracketColumn alias? name,
    fun schema table after hbracket hpoint => ?_,
    fun _ _ _ _ => bracketColumn_inj, fun schema schema' table table' => ?_⟩
  · rw [bracketTable_eq]
    exact readQualifiedName?_bracketColumn _ table hbracket hpoint
  · rw [bracketTable_eq, bracketTable_eq, bracketColumn_inj, schema?_injective.eq_iff]

/-- A column whose name looks like the end of one name and the start of another, behind an alias that ends with a
bracket, and a table without a schema. -/
theorem names_readable_imitation :
    readQualifiedName? "[a]]].[b]].[c] = 1".toList = some (some "a]".toList, "b].[c".toList, " = 1".toList) ∧
    readQualifiedName? "[a]].[b] (".toList = some (none, "a].[b".toList, " (".toList) ∧
    bracketTable [] "a].[b".toList ≠ bracketTable "a".toList "b".toList := by
  obtain ⟨-, hcolumn, htable, -, hdiffer⟩ := names_readable
  refine ⟨?_, ?_, ?_⟩
  · exact hcolumn (some "a]".toList) "b].[c".toList " = 1".toList (by decide) (by decide)
  · exact htable [] "a].[b".toList " (".toList (by decide) (by decide)
  · rw [ne_eq, hdiffer]
    decide

end EntityStore.Text
