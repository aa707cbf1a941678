import EntityStore.Text.Basic

/-!
# Decimal digits

Whole numbers as decimal text, and back.  Written numbers have no leading zero and no plus sign; the readers
take leading zeros, and the signed one takes either sign.
-/

namespace EntityStore.Text

/-- A number in decimal digits. -/
def ofNat (n : Nat) : Text :=
  Nat.toDigits 10 n

/-- A whole number in decimal digits, after a minus sign if it is negative. -/
def ofInt : Int → Text
  | .ofNat n => ofNat n
  | .negSucc n => '-' :: ofNat (n + 1)

/-- A number in decimal digits, with zeros before it up to the given width. -/
def ofNatPadded (width n : Nat) : Text :=
  (ofNat n).leftpad width '0'

/-- Reads a number: one decimal digit or more and nothing else. -/
def readNat? (t : Text) : Option Nat :=
  if t ≠ [] ∧ t.all Char.isDigit then some (Nat.ofDigitChars 10 t 0) else none

/-- Reads a whole number: digits after an optional sign. -/
def readInt? : Text → Option Int
  | '-' :: digits => (readNat? digits).map fun n => -(n : Int)
  | '+' :: digits => (readNat? digits).map fun n => (n : Int)
  | digits => (readNat? digits).map fun n => (n : Int)

/-- A number in small hexadecimal digits. -/
def ofNatHex (n : Nat) : Text :=
  Nat.toDigits 16 n

/-- The last hexadecimal digit of a number. -/
def hexValue (n : Nat) : Fin 16 :=
  ⟨n % 16, Nat.mod_lt n (by decide)⟩

/-- The value of a hexadecimal digit, small or capital. -/
def hexDigitValue? (c : Char) : Option (Fin 16) :=
  if '0' ≤ c ∧ c ≤ '9' then some (hexValue (c.toNat - '0'.toNat))
  else if 'a' ≤ c ∧ c ≤ 'f' then some (hexValue (c.toNat - 'a'.toNat + 10))
  else if 'A' ≤ c ∧ c ≤ 'F' then some (hexValue (c.toNat - 'A'.toNat + 10))
  else none

/-- Reads a number in hexadecimal digits: one digit or more and nothing else. -/
def readHex? (t : Text) : Option Nat :=
  if t = [] then none
  else (t.mapM hexDigitValue?).map fun digits => digits.foldl (fun n d => n * 16 + d.val) 0

/-- The small hexadecimal digit of a value. -/
def hexDigit (d : Fin 16) : Char :=
  Nat.digitChar d.val

theorem hexDigitValue?_hexDigit (d : Fin 16) : hexDigitValue? (hexDigit d) = some d := by
  revert d
  decide

end EntityStore.Text
