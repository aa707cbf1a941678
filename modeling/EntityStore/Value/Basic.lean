import EntityStore.Guid
import EntityStore.Number.Decimal
import EntityStore.Number.Numeral
import EntityStore.Number.Shortest
import EntityStore.Text.Blank
import EntityStore.Text.Escaped
import EntityStore.Time.Format
import EntityStore.Time.Span

/-!
# Values

One type carries everything that travels to or from a database: operands of predicates, bound parameters and cells
of a result.  A list holds values of any kind, lists among them; its leaves are the values in it that are no lists.
-/

namespace EntityStore

/-- A value. -/
inductive Value where
  | null
  | bool (b : Bool)
  | int (i : Int64)
  | uint (u : UInt64)
  | decimal (d : Decimal)
  | double (d : Double)
  | string (t : Text)
  | char (c : Char)
  | dateTime (t : DateTime)
  | offsetDateTime (t : OffsetDateTime)
  | guid (g : Guid)
  | timeSpan (s : TimeSpan)
  | xml (t : Text)
  | bytes (bs : List UInt8)
  | list (items : List Value)

namespace Value

/-- The name of the kind of a value in messages. -/
def kind : Value → Text
  | .null => "null".toList
  | .bool _ => "bool".toList
  | .int _ => "int".toList
  | .uint _ => "uint".toList
  | .decimal _ => "decimal".toList
  | .double _ => "double".toList
  | .string _ => "string".toList
  | .char _ => "char".toList
  | .dateTime _ => "datetime".toList
  | .offsetDateTime _ => "datetimeoffset".toList
  | .guid _ => "guid".toList
  | .timeSpan _ => "timespan".toList
  | .xml _ => "xml".toList
  | .bytes _ => "bytes".toList
  | .list _ => "list".toList

/-- Whether a value is null. -/
def isNull : Value → Bool
  | .null => true
  | _ => false

/-- Whether a value is a markup document. -/
def isXml : Value → Bool
  | .xml _ => true
  | _ => false

/-- Whether a text, white space at its ends aside, is a numeral for a finite double. -/
def isNumericText (t : Text) : Bool :=
  match Double.read t.trim with
  | .ok d => d.isFinite
  | .error _ => false

/-- Whether a value is a finite number or a text that denotes one. -/
def isNumeric : Value → Bool
  | .int _ | .uint _ | .decimal _ => true
  | .double d => d.isFinite
  | .string t => isNumericText t
  | _ => false

/-- The text of a value, without quotes; null, bytes and lists have none. -/
def toText? : Value → Option Text
  | .null | .bytes _ | .list _ => none
  | .bool b => some (if b then ['1'] else ['0'])
  | .int i => some (Text.ofInt i.toInt)
  | .uint u => some (Text.ofNat u.toNat)
  | .decimal d => some d.toText
  | .double d => some d.toText
  | .string t | .xml t => some t
  | .char c => some [c]
  | .dateTime t => some t.toText
  | .offsetDateTime t => some t.toText
  | .guid g => some g.toText
  | .timeSpan s => some s.toText

mutual

/-- The values that a value consists of: its own leaves if it is a list, otherwise itself. -/
def leaves : Value → List Value
  | .list items => leavesOf items
  | v => [v]

/-- The leaves of all items in order. -/
def leavesOf : List Value → List Value
  | [] => []
  | v :: rest => leaves v ++ leavesOf rest

end

/-- An offset as messages show it: seconds only if there are any. -/
def inspectOffset (offset : Int) : Text :=
  let seconds := offset.natAbs
  (if offset < 0 then '-' else '+') :: Text.ofNatPadded 2 (seconds / 3600) ++ ':' ::
    Text.ofNatPadded 2 (seconds / 60 % 60) ++
    (if seconds % 60 = 0 then [] else ':' :: Text.ofNatPadded 2 (seconds % 60))

/-- A time span as messages show it: whole seconds, rounded down, and the nanoseconds left over. -/
def inspectSpan (s : TimeSpan) : Text :=
  "TimeDelta \x7b secs: ".toList ++ Text.ofInt (s.nanos / nanosPerSecond) ++ ", nanos: ".toList ++
    Text.ofInt (s.nanos % nanosPerSecond) ++ " \x7d".toList

/-- The name of a kind of value before its content in parentheses. -/
def wrapped (kind : String) (content : Text) : Text :=
  kind.toList ++ '(' :: content ++ [')']

mutual

/-- A value as messages show it: its kind and its content. -/
def inspect : Value → Text
  | .null => "Null".toList
  | .bool b => wrapped "Bool" (if b then "true".toList else "false".toList)
  | .int i => wrapped "Int" (Text.ofInt i.toInt)
  | .uint u => wrapped "UInt" (Text.ofNat u.toNat)
  | .decimal d => wrapped "Decimal" d.toText
  | .double d => wrapped "Double" d.inspect
  | .string t => wrapped "String" t.escaped
  | .char c => wrapped "Char" (Text.escapedChar c)
  | .dateTime t => wrapped "DateTime" t.toText
  | .offsetDateTime t => wrapped "DateTimeOffset" (t.localTime.toText ++ inspectOffset t.offset)
  | .guid g => wrapped "Guid" g.toText
  | .timeSpan s => wrapped "TimeSpan" (inspectSpan s)
  | .xml t => wrapped "Xml" t.escaped
  | .bytes bs => wrapped "Bytes" ('[' :: Text.joinWith ", ".toList (bs.map fun b => Text.ofNat b.toNat) ++ [']'])
  | .list items => wrapped "List" ('[' :: Text.joinWith ", ".toList (inspectAll items) ++ [']'])

/-- All values of a list as messages show them. -/
def inspectAll : List Value → List Text
  | [] => []
  | v :: rest => inspect v :: inspectAll rest

end

end Value

end EntityStore
