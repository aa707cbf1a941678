import EntityStore.Time.Calendar
import EntityStore.Text.Blank
import EntityStore.Text.Digits

/-!
# Reading dates and times

A reader takes what it needs from the start of a text and hands on the rest.  The lenient notation is that of the
printed texts, except that each number may have white space before it and fewer digits than are printed.  The strict
notation is that of internet timestamps, with every digit in place.
-/

namespace EntityStore

/-- Takes something from the start of a text and leaves the rest. -/
abbrev Reader (α : Type) := StateT Text Option α

namespace Reader

/-- Fails. -/
def fail {α : Type} : Reader α := fun _ => none

/-- Takes the given character. -/
def char (c : Char) : Reader Unit := fun t =>
  match t with
  | d :: rest => if c = d then some ((), rest) else none
  | [] => none

/-- Skips white space. -/
def blanks : Reader Unit := fun t => some ((), t.trimStart)

/-- Takes the longest run of digits up to the given length, one at least. -/
def digits (limit : Nat) : Reader Text := fun t =>
  let taken := (t.take limit).takeWhile Char.isDigit
  if taken = [] then none else some (taken, t.drop taken.length)

/-- Takes a number of digits exactly. -/
def exactly (count : Nat) : Reader Nat := do
  let taken ← digits count
  if taken.length = count then pure (Nat.ofDigitChars 10 taken 0) else fail

/-- Takes a number of two digits or fewer, after white space. -/
def number : Reader Nat := do
  blanks
  pure (Nat.ofDigitChars 10 (← digits 2) 0)

/-- Takes a year: four digits or fewer, or any number of them after a sign. -/
def year : Reader Int := do
  blanks
  let t ← get
  match t with
  | '-' :: rest => set rest; pure (-(Nat.ofDigitChars 10 (← digits rest.length) 0 : Int))
  | '+' :: rest => set rest; pure (Nat.ofDigitChars 10 (← digits rest.length) 0)
  | _ => pure (Nat.ofDigitChars 10 (← digits 4) 0)

/-- Takes the digits after the point of a second as nanoseconds; those after the ninth are skipped. -/
def nanos : Reader Nat := do
  let taken ← digits 9
  modify fun (t : Text) => t.dropWhile Char.isDigit
  pure (Nat.ofDigitChars 10 taken 0 * Nat.pow 10 (9 - taken.length))

/-- Takes a fraction of a second if a point announces one. -/
def fraction : Reader Nat := do
  let t ← get
  match t with
  | '.' :: rest => set rest; nanos
  | _ => pure 0

/-- The time with the given parts; the sixtieth second is a leap second. -/
def timeOf (hour minute second nanos : Nat) : Option TimeOfDay :=
  if second = 60 then TimeOfDay.ofParts? hour minute 59 (nanosPerSecond + nanos)
  else TimeOfDay.ofParts? hour minute second nanos

/-- Takes a date in the lenient notation. -/
def date : Reader Date := do
  let y ← year
  char '-'
  let m ← number
  char '-'
  let d ← number
  (Date.ofParts? y m d : Option Date)

/-- Takes a time in the lenient notation. -/
def time : Reader TimeOfDay := do
  let h ← number
  char ':'
  let m ← number
  char ':'
  let s ← number
  let n ← fraction
  (timeOf h m s n : Option TimeOfDay)

/-- Takes a date and a time with something between them. -/
def dateTime (between : Reader Unit) : Reader DateTime := do
  let d ← date
  between
  let t ← time
  pure ⟨d, t⟩

/-- Takes the sign of an offset; the typographical minus counts as one. -/
def sign : Reader Int := fun t =>
  match t with
  | '+' :: rest => some (1, rest)
  | '-' :: rest => some (-1, rest)
  | '\u2212' :: rest => some (-1, rest)
  | _ => none

/-- Takes an offset with something between its hours and its minutes. -/
def offset (between : Reader Unit) : Reader Int := do
  let s ← sign
  let h ← exactly 2
  between
  let m ← exactly 2
  if m < 60 then pure (s * (h * 3600 + m * 60 : Nat)) else fail

/-- Skips colons and white space. -/
def colonsAndBlanks : Reader Unit := fun t =>
  some ((), t.dropWhile fun c => c == ':' || Text.isBlank c)

/-- Takes a local time with its offset in the lenient notation. -/
def offsetDateTime (between beforeOffset : Reader Unit) : Reader OffsetDateTime := do
  let t ← dateTime between
  beforeOffset
  blanks
  let o ← offset colonsAndBlanks
  (OffsetDateTime.ofParts? t o : Option OffsetDateTime)

/-- Takes the offset of an internet timestamp, where the letter Z stands for none. -/
def strictOffset : Reader Int := do
  let t ← get
  match t with
  | 'Z' :: rest => set rest; pure 0
  | 'z' :: rest => set rest; pure 0
  | _ => offset (char ':')

/-- Takes an internet timestamp. -/
def timestamp : Reader OffsetDateTime := do
  let y ← exactly 4
  char '-'
  let mo ← exactly 2
  char '-'
  let d ← exactly 2
  char 'T' <|> char 't' <|> char ' '
  let h ← exactly 2
  char ':'
  let mi ← exactly 2
  char ':'
  let s ← exactly 2
  let n ← fraction
  let o ← strictOffset
  let date ← (Date.ofParts? y mo d : Option Date)
  let time ← (timeOf h mi s n : Option TimeOfDay)
  (OffsetDateTime.ofParts? ⟨date, time⟩ o : Option OffsetDateTime)

/-- What a reader makes of a text if it takes all of it. -/
def readAll? {α : Type} (reader : Reader α) (t : Text) : Option α :=
  match reader t with
  | some (a, []) => some a
  | _ => none

end Reader

/-- Reads a date and a time joined by the letter T or by white space, or a date alone, which is its midnight. -/
def DateTime.read? (t : Text) : Option DateTime :=
  let t := t.trim
  Reader.readAll? (Reader.dateTime (Reader.char 'T')) t
    <|> Reader.readAll? (Reader.dateTime Reader.blanks) t
    <|> (Reader.readAll? Reader.date t).map fun d => ⟨d, .midnight⟩

/-- Reads a local time with its offset: as an internet timestamp, or joined by the letter T, or by white space. -/
def OffsetDateTime.read? (t : Text) : Option OffsetDateTime :=
  let t := t.trim
  Reader.readAll? Reader.timestamp t
    <|> Reader.readAll? (Reader.offsetDateTime (Reader.char 'T') (pure ())) t
    <|> Reader.readAll? (Reader.offsetDateTime Reader.blanks Reader.blanks) t

end EntityStore
