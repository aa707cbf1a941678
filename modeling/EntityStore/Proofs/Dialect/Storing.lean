import EntityStore.Dialect.Cell
import EntityStore.Proofs.Number.DecimalReading
import EntityStore.Proofs.Text.Guids
import EntityStore.Proofs.Value.WholeNumber

/-!
# Stored values are found again

A value changes its form on the way into the database and back: a truth value is stored as a number, and decimals,
guids, characters and numbers beyond the signed ones are stored as texts.  Decoding the cell to the type of the field
finds the value that was stored (`FieldType.decode_stored`), whatever it became in between.  Left out are the types
whose texts speak of time, and doubles that are not numbers, for which the database has no cell.
-/

namespace EntityStore

/-- The values that a field of a type holds. -/
inductive ScalarType.Holds : ScalarType → Value → Prop where
  | bool (b : Bool) : Holds .bool (.bool b)
  /-- A number in the range of a whole-number type. -/
  | integer {type : ScalarType} {low high i : Int} (hrange : type.range? = some (low, high)) (hlow : low ≤ i)
    (hhigh : i ≤ high) : Holds type (type.ofInteger i)
  | decimal (d : Decimal) : Holds .decimal (.decimal d)
  | double (d : Double) : Holds .double (.double d)
  | string (t : Text) : Holds .string (.string t)
  | char (c : Char) : Holds .char (.char c)
  | dateTime (t : DateTime) : Holds .dateTime (.dateTime t)
  | offsetDateTime (t : OffsetDateTime) : Holds .offsetDateTime (.offsetDateTime t)
  | guid (g : Guid) : Holds .guid (.guid g)
  | timeSpan (s : TimeSpan) : Holds .timeSpan (.timeSpan s)
  | xml (t : Text) : Holds .xml (.xml t)
  | bytes (bs : List UInt8) : Holds .bytes (.bytes bs)

/-- The values that a field holds: null if it may be absent, otherwise those of its type. -/
inductive FieldType.Holds (type : FieldType) : Value → Prop where
  | absent (hnullable : type.nullable = true) : Holds type .null
  | present {v : Value} (h : type.scalar.Holds v) : Holds type v

/-- Whether the values of a type are times or spans of time. -/
def ScalarType.isTemporal : ScalarType → Bool
  | dateTime | offsetDateTime | timeSpan => true
  | _ => false

/-- Whether a value is a double that is not a number. -/
def Value.isNaN : Value → Bool
  | .double d => d.isNaN
  | _ => false

/-! ### Whole numbers -/

private theorem toInt_toInt64 {u : UInt64} (h : 0 ≤ u.toInt64) : u.toInt64.toInt = u.toNat := by
  have hsign : 0 ≤ u.toInt64.toInt := by simpa using Int64.le_iff_toInt_le.mp h
  have hbits : u.toInt64.toInt = u.toBitVec.toInt := rfl
  have hlt := u.toNat_lt
  rw [hbits, BitVec.toInt_eq_toNat_cond, UInt64.toNat_toBitVec] at hsign ⊢
  split <;> split at hsign <;> omega

/-- A number is denoted by its own cell, as it was by the value of it that was stored. -/
private theorem ScalarType.Represents.exists_cell {type : ScalarType} {n : Int} {v : Value} (h : type.Represents n v) :
    ∃ cell, Cell.ofValue v = .ok cell ∧ cell.stored.toValue.Denotes n := by
  cases v with
  | int i => exact ⟨_, rfl, h.denotes⟩
  | uint u =>
    refine ⟨_, rfl, ?_⟩
    split
    · -- a number below the sign bit is stored as it is
      next hsign =>
      exact .number (congrArg some (by rw [← h.2]; exact_mod_cast toInt_toInt64 hsign))
    · refine .text ?_
      rw [Text.trim_of_isNumeral (isNumeral_ofNat _), ← h.2]
      exact Text.readInt?_eq_some_iff.mp (Text.readInt?_ofNat _)
  | _ => exact h.elim

/-! ### All types -/

private theorem ScalarType.decode_present {type : ScalarType} {v : Value} (h : type.Holds v)
    (htemporal : type.isTemporal = false) (hnan : v.isNaN = false) :
    ∃ cell, Cell.ofValue v = .ok cell ∧ type.decode cell.stored.toValue = .ok v := by
  cases h with
  | bool b => exact ⟨_, rfl, by cases b <;> rfl⟩
  | integer hrange hlow hhigh =>
    obtain ⟨cell, hcell, hn⟩ := Represents.exists_cell (represents_ofInteger hrange hlow hhigh)
    exact ⟨cell, hcell, (decode_eq_ok_iff hrange).mpr ⟨_, hn, ⟨hlow, hhigh⟩, rfl⟩⟩
  | decimal d =>
    refine ⟨_, rfl, ?_⟩
    show orFault .decimal ((Decimal.read? (Text.trim d.toText)).map .decimal) = _
    rw [Text.trim_of_isNumeral d.isNumeral_toText, d.read?_toText]
    rfl
  | double d =>
    have hcell : (Cell.real d).stored = .real d := if_neg (by simpa [Value.isNaN] using hnan)
    exact ⟨_, rfl, by rw [hcell]; rfl⟩
  | string t => exact ⟨_, rfl, rfl⟩
  | char c => exact ⟨_, rfl, rfl⟩
  | guid g =>
    refine ⟨_, rfl, ?_⟩
    show orFault .guid ((Guid.read? (Text.trim g.toText)).map .guid) = _
    rw [g.trim_toText, g.read?_toText]
    rfl
  | xml t => exact ⟨_, rfl, rfl⟩
  | bytes bs => exact ⟨_, rfl, rfl⟩
  | dateTime t => simp [isTemporal] at htemporal
  | offsetDateTime t => simp [isTemporal] at htemporal
  | timeSpan s => simp [isTemporal] at htemporal

theorem ScalarType.isNull_of_decode {type : ScalarType} {v w : Value} (h : type.decode v = .ok w) :
    v.isNull = false := by
  cases v with
  | null => cases type <;> exact nomatch h
  | _ => rfl

/-- A value of a type decodes to itself. -/
theorem ScalarType.decode_of_holds {type : ScalarType} {v : Value} (h : type.Holds v) : type.decode v = .ok v := by
  cases h with
  | integer hrange hlow hhigh =>
    exact (decode_eq_ok_iff hrange).mpr ⟨_, (represents_ofInteger hrange hlow hhigh).denotes, ⟨hlow, hhigh⟩, rfl⟩
  | _ => rfl

/-- A field finds every value again that was stored in it. -/
theorem FieldType.decode_stored {type : FieldType} {v : Value} (h : type.Holds v)
    (htemporal : type.scalar.isTemporal = false) (hnan : v.isNaN = false) :
    ∃ cell, Cell.ofValue v = .ok cell ∧ type.decode cell.stored.toValue = .ok v := by
  cases h with
  | absent hnullable =>
    refine ⟨_, rfl, ?_⟩
    unfold FieldType.decode
    rw [if_pos (by simp [hnullable, Cell.stored, Cell.toValue, Value.isNull])]
  | present h =>
    obtain ⟨cell, hcell, hdecode⟩ := ScalarType.decode_present h htemporal hnan
    refine ⟨cell, hcell, ?_⟩
    rw [FieldType.decode, ScalarType.isNull_of_decode hdecode, Bool.and_false, if_neg (by decide), hdecode]

/-- The greatest number without sign, which is stored as a text, and the least decimal, with all of its digits. -/
theorem FieldType.decode_stored_extremes :
    (∃ cell, Cell.ofValue (.uint 18446744073709551615) = .ok cell ∧
      (FieldType.mk .uint64 true).decode cell.stored.toValue = .ok (.uint 18446744073709551615)) ∧
    ∃ cell, Cell.ofValue (.decimal ⟨-79228162514264337593543950335, 28, by decide, by decide⟩) = .ok cell ∧
      (FieldType.mk .decimal false).decode cell.stored.toValue =
        .ok (.decimal ⟨-79228162514264337593543950335, 28, by decide, by decide⟩) :=
  ⟨decode_stored (.present (.integer (i := 18446744073709551615) rfl (by decide) (by decide))) rfl rfl,
    decode_stored (.present (.decimal _)) rfl rfl⟩

end EntityStore
