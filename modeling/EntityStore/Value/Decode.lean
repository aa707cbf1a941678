import EntityStore.Text.Utf8
import EntityStore.Time.Read
import EntityStore.Value.ScalarType

/-!
# Decoding values

A cell is decoded to the type of the field that receives it.  The result is a value in the one form that values of
this type have, so that a decoded value decodes to itself.  Whole numbers pass through 128 bits: the cell stands for
such a number, whatever its kind, and the number has to lie in the range of the type.
-/

namespace EntityStore

/-- Why a value does not decode to a type. -/
inductive DecodeFault where
  /-- The kind of the value does not fit the type, or its number lies out of range. -/
  | mismatch (expected : ScalarType) (found : Text)
  | notOneCharacter (t : Text)
  | notUtf8 (fault : Utf8Fault)
  | numeral (fault : NumeralFault)
  | dateTime (t : Text)
  | offsetDateTime (t : Text)
  | timeSpan (t : Text)
  | decimal
  | guid
  /-- The row has no column of that name. -/
  | missingColumn
  | other (message : Text)
  deriving DecidableEq

/-- The message of UTF-8 faults. -/
def Utf8Fault.message : Utf8Fault → Text
  | .invalid length index =>
    "invalid utf-8 sequence of ".toList ++ Text.ofNat length ++ " bytes from index ".toList ++ Text.ofNat index
  | .incomplete index => "incomplete utf-8 byte sequence from index ".toList ++ Text.ofNat index

/-- The message of texts that are no numerals. -/
def NumeralFault.message : NumeralFault → Text
  | .empty => "cannot parse float from empty string".toList
  | .malformed => "invalid float literal".toList

/-- The message of a value that does not decode.  The readers of decimals and guids have messages of their own for
each way in which a text can be none; the texts for `.decimal` and `.guid` stand for all of these and are not theirs. -/
def DecodeFault.message : DecodeFault → Text
  | .mismatch expected found => "expected ".toList ++ expected.name ++ ", got ".toList ++ found
  | .notOneCharacter t => "expected a single character, got ".toList ++ t.escaped
  | .notUtf8 fault => fault.message
  | .numeral fault => fault.message
  | .dateTime t => "invalid datetime ".toList ++ t.escaped
  | .offsetDateTime t => "invalid datetimeoffset ".toList ++ t.escaped
  | .timeSpan t => "invalid timespan ".toList ++ t.escaped
  | .decimal => "not a decimal number".toList
  | .guid => "not a guid".toList
  | .missingColumn => "column not found in result set".toList
  | .other message => message

namespace Value

/-- The least whole number of 128 bits. -/
def leastWide : Int := -170141183460469231731687303715884105728

/-- The greatest whole number of 128 bits. -/
def greatestWide : Int := 170141183460469231731687303715884105727

/-- The whole number of 128 bits that is nearest to a number. -/
def saturated (i : Int) : Int :=
  max leastWide (min i greatestWide)

/-- Reads a whole number of 128 bits. -/
def readWide? (t : Text) : Option Int :=
  (Text.readInt? t).filter fun i => decide (leastWide ≤ i) && decide (i ≤ greatestWide)

/-- The whole number of 128 bits that stands for a value.  A double beyond them is cut to the nearest of them, and
digits beyond them stand for none. -/
def integer? : Value → Option Int
  | .int i => some i.toInt
  | .uint u => some u.toNat
  | .bool b => some (if b then 1 else 0)
  | .decimal d => d.toInt?
  | .double d => d.toInt?.map saturated
  | .string t => readWide? t.trim
  | _ => none

/-- The truth value that a value denotes, if it denotes one. -/
def truth? : Value → Option Bool
  | .bool b => some b
  | .int i => if i = 0 then some false else if i = 1 then some true else none
  | .uint u => if u = 0 then some false else if u = 1 then some true else none
  | .string t =>
    let word := t.trim.toAsciiLower
    if word = ['1'] ∨ word = ['t', 'r', 'u', 'e'] then some true
    else if word = ['0'] ∨ word = ['f', 'a', 'l', 's', 'e'] then some false
    else none
  | _ => none

end Value

namespace ScalarType

/-- The value that was read, or the fault if none was. -/
def orFault (fault : DecodeFault) : Option Value → Except DecodeFault Value
  | some v => .ok v
  | none => .error fault

/-- The value of a whole-number type for a number in its range. -/
def ofInteger (type : ScalarType) (i : Int) : Value :=
  if type = uint64 then .uint (UInt64.ofNat i.toNat) else .int (Int64.ofInt i)

/-- The whole number that stands for a value, as a value of the given whole-number type if it lies in the range. -/
def integer? (type : ScalarType) (v : Value) : Option Value :=
  match type.range?, v.integer? with
  | some (low, high), some i => if low ≤ i ∧ i ≤ high then some (type.ofInteger i) else none
  | _, _ => none

/-- Decodes a value to a decimal. -/
def decodeDecimal (mismatch : DecodeFault) : Value → Except DecodeFault Value
  | .decimal d => .ok (.decimal d)
  | .int i => .ok (.decimal (.ofInt64 i))
  | .uint u => .ok (.decimal (.ofUInt64 u))
  | .double d => orFault .decimal ((Decimal.ofDouble? d).map .decimal)
  | .string t => orFault .decimal ((Decimal.read? t.trim).map .decimal)
  | _ => .error mismatch

/-- Decodes a value to a double. -/
def decodeDouble (mismatch : DecodeFault) : Value → Except DecodeFault Value
  | .double d => .ok (.double d)
  | .int i => .ok (.double (.ofInt i.toInt))
  | .uint u => .ok (.double (.ofInt u.toNat))
  | .decimal d => .ok (.double d.toDouble)
  | .string t =>
    match Double.read t.trim with
    | .ok d => .ok (.double d)
    | .error fault => .error (.numeral fault)
  | _ => .error mismatch

/-- Decodes a value to a text: bytes by UTF-8, everything else by its own text. -/
def decodeString (mismatch : DecodeFault) : Value → Except DecodeFault Value
  | .bytes bs =>
    match Text.ofUtf8 bs with
    | .ok t => .ok (.string t)
    | .error fault => .error (.notUtf8 fault)
  | v => orFault mismatch (v.toText?.map .string)

/-- Decodes a value to a character. -/
def decodeChar (mismatch : DecodeFault) : Value → Except DecodeFault Value
  | .char c => .ok (.char c)
  | .string [c] => .ok (.char c)
  | .string t => .error (.notOneCharacter t)
  | _ => .error mismatch

/-- Decodes a value to a date and time; an offset is dropped. -/
def decodeDateTime (mismatch : DecodeFault) : Value → Except DecodeFault Value
  | .dateTime t => .ok (.dateTime t)
  | .offsetDateTime t => .ok (.dateTime t.localTime)
  | .string t => orFault (.dateTime t) ((DateTime.read? t).map .dateTime)
  | _ => .error mismatch

/-- Decodes a value to a local time with its offset. -/
def decodeOffsetDateTime (mismatch : DecodeFault) : Value → Except DecodeFault Value
  | .offsetDateTime t => .ok (.offsetDateTime t)
  | .string t => orFault (.offsetDateTime t) ((OffsetDateTime.read? t).map .offsetDateTime)
  | _ => .error mismatch

/-- Decodes a value to a guid. -/
def decodeGuid (mismatch : DecodeFault) : Value → Except DecodeFault Value
  | .guid g => .ok (.guid g)
  | .string t => orFault .guid ((Guid.read? t.trim).map .guid)
  | .bytes bs => orFault .guid ((Guid.ofBytes? bs).map .guid)
  | _ => .error mismatch

/-- Decodes a value to a time span. -/
def decodeTimeSpan (mismatch : DecodeFault) : Value → Except DecodeFault Value
  | .timeSpan s => .ok (.timeSpan s)
  | .string t => orFault (.timeSpan t) ((TimeSpan.read? t).map .timeSpan)
  | _ => .error mismatch

/-- Decodes a value to a markup document. -/
def decodeXml (mismatch : DecodeFault) : Value → Except DecodeFault Value
  | .xml t | .string t => .ok (.xml t)
  | _ => .error mismatch

/-- Decodes a value to bytes. -/
def decodeBytes (mismatch : DecodeFault) : Value → Except DecodeFault Value
  | .bytes bs => .ok (.bytes bs)
  | .string t => .ok (.bytes t.toUtf8)
  | _ => .error mismatch

/-- Decodes a value to a type. -/
def decode (type : ScalarType) (v : Value) : Except DecodeFault Value :=
  let mismatch := DecodeFault.mismatch type v.kind
  match type with
  | byte | int16 | uint16 | int32 | uint32 | int64 | uint64 => orFault mismatch (type.integer? v)
  | bool => orFault mismatch (v.truth?.map .bool)
  | decimal => decodeDecimal mismatch v
  | double => decodeDouble mismatch v
  | string => decodeString mismatch v
  | char => decodeChar mismatch v
  | dateTime => decodeDateTime mismatch v
  | offsetDateTime => decodeOffsetDateTime mismatch v
  | guid => decodeGuid mismatch v
  | timeSpan => decodeTimeSpan mismatch v
  | xml => decodeXml mismatch v
  | bytes => decodeBytes mismatch v

end ScalarType

/-- Decodes a value to the type of a field, which takes null if it may be absent. -/
def FieldType.decode (type : FieldType) (v : Value) : Except DecodeFault Value :=
  if type.nullable && v.isNull then .ok .null else type.scalar.decode v

end EntityStore
