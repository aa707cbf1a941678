import EntityStore.Value.Basic

/-!
# Scalar types

The types that a column can have.  Each fixes the type of the column in the database and the values that the column
holds: every whole-number type has its range, and all of them but the unsigned 64-bit one share one kind of value.
-/

namespace EntityStore

/-- The type of a column. -/
inductive ScalarType where
  | bool
  | byte
  | int16
  | uint16
  | int32
  | uint32
  | int64
  | uint64
  | decimal
  | double
  | string
  | char
  | dateTime
  | offsetDateTime
  | guid
  | timeSpan
  | xml
  | bytes
  deriving DecidableEq, Repr

namespace ScalarType

/-- All types, in the order of their declaration. -/
def all : List ScalarType :=
  [bool, byte, int16, uint16, int32, uint32, int64, uint64, decimal, double, string, char, dateTime, offsetDateTime,
    guid, timeSpan, xml, bytes]

/-- The name of a type in messages. -/
def name : ScalarType → Text
  | bool => "bool".toList
  | byte => "u8".toList
  | int16 => "i16".toList
  | uint16 => "u16".toList
  | int32 => "i32".toList
  | uint32 => "u32".toList
  | int64 => "i64".toList
  | uint64 => "u64".toList
  | decimal => "decimal".toList
  | double => "f64".toList
  | string => "string".toList
  | char => "char".toList
  | dateTime => "datetime".toList
  | offsetDateTime => "datetimeoffset".toList
  | guid => "guid".toList
  | timeSpan => "timespan".toList
  | xml => "xml".toList
  | bytes => "bytes".toList

/-- The name of what a type means. -/
def meaning : ScalarType → Text
  | bool => "Bool".toList
  | byte => "Byte".toList
  | int16 => "Int16".toList
  | uint16 => "UInt16".toList
  | int32 => "Int32".toList
  | uint32 => "UInt32".toList
  | int64 => "Int64".toList
  | uint64 => "UInt64".toList
  | decimal => "Decimal".toList
  | double => "Double".toList
  | string => "String".toList
  | char => "Char".toList
  | dateTime => "DateTime".toList
  | offsetDateTime => "DateTimeOffset".toList
  | guid => "Guid".toList
  | timeSpan => "TimeSpan".toList
  | xml => "Xml".toList
  | bytes => "Bytes".toList

/-- The tag of the database type that stores a type. -/
def storageTag : ScalarType → Text
  | bool => "Bit".toList
  | byte => "TinyInt".toList
  | int16 => "SmallInt".toList
  | uint16 | int32 => "Int".toList
  | uint32 | int64 => "BigInt".toList
  | uint64 | decimal => "Decimal".toList
  | double => "Float".toList
  | string => "NVarChar".toList
  | char => "NChar".toList
  | dateTime => "DateTime".toList
  | offsetDateTime => "DateTimeOffset".toList
  | guid => "UniqueIdentifier".toList
  | timeSpan => "Time".toList
  | xml => "Xml".toList
  | bytes => "VarBinary".toList

/-- The type of a column as it is declared in the database. -/
def columnType : ScalarType → Text
  | bool => "[BIT]".toList
  | byte => "[TINYINT]".toList
  | int16 => "[SMALLINT]".toList
  | uint16 | int32 => "[INT]".toList
  | uint32 | int64 => "[BIGINT]".toList
  | uint64 => "[DECIMAL](20, 0)".toList
  | decimal => "[DECIMAL](18, 4)".toList
  | double => "[FLOAT]".toList
  | string => "[NVARCHAR](MAX)".toList
  | char => "[NCHAR](1)".toList
  | dateTime => "[DATETIME]".toList
  | offsetDateTime => "[DATETIMEOFFSET]".toList
  | guid => "[UNIQUEIDENTIFIER]".toList
  | timeSpan => "[TIME]".toList
  | xml => "[XML]".toList
  | bytes => "[VARBINARY](MAX)".toList

/-- The least and the greatest number of a whole-number type. -/
def range? : ScalarType → Option (Int × Int)
  | byte => some (0, 255)
  | int16 => some (-32768, 32767)
  | uint16 => some (0, 65535)
  | int32 => some (-2147483648, 2147483647)
  | uint32 => some (0, 4294967295)
  | int64 => some (-9223372036854775808, 9223372036854775807)
  | uint64 => some (0, 18446744073709551615)
  | _ => none

/-- Whether the values of a type are numbers. -/
def isNumeric (type : ScalarType) : Bool :=
  type.range?.isSome || type == decimal || type == double

/-- Whether a column has to be cast to text before it can be compared. -/
def needsTextCast (type : ScalarType) : Bool :=
  type == xml

/-- The type of a single value; null and lists have none. -/
def ofValue? : Value → Option ScalarType
  | .null | .list _ => none
  | .bool _ => some bool
  | .int _ => some int64
  | .uint _ => some uint64
  | .decimal _ => some decimal
  | .double _ => some double
  | .string _ => some string
  | .char _ => some char
  | .dateTime _ => some dateTime
  | .offsetDateTime _ => some offsetDateTime
  | .guid _ => some guid
  | .timeSpan _ => some timeSpan
  | .xml _ => some xml
  | .bytes _ => some bytes

/-- The value that a field has before anything is known of it. -/
def default : ScalarType → Value
  | bool => .bool false
  | byte | int16 | uint16 | int32 | uint32 | int64 => .int 0
  | uint64 => .uint 0
  | decimal => .decimal (Decimal.ofInt64 0)
  | double => .double ⟨0⟩
  | string => .string []
  | char => .char '\x00'
  | dateTime => .dateTime .epoch
  | offsetDateTime => .offsetDateTime .epoch
  | guid => .guid .zero
  | timeSpan => .timeSpan .zero
  | xml => .xml []
  | bytes => .bytes []

end ScalarType

/-- A type whose values may be absent. -/
structure FieldType where
  scalar : ScalarType
  nullable : Bool := false
  deriving DecidableEq, Repr

/-- The value that a field has before anything is known of it: null if it may be absent. -/
def FieldType.default (type : FieldType) : Value :=
  if type.nullable then .null else type.scalar.default

end EntityStore
