import EntityStore.Text.Digits
import EntityStore.Text.Unprintable

/-!
# Escaped text

The form in which messages show a text: between double quotes, with an escape for each character that would end
the text, break the line or show nothing of its own.
-/

namespace EntityStore.Text

/-- The escape of a character by its number. -/
def escapeByNumber (c : Char) : Text :=
  "\\u\x7b".toList ++ ofNatHex c.toNat ++ ['\x7d']

/-- A character as it stands between the given quotation marks. -/
def escapeChar (mark : Char) (c : Char) : Text :=
  if c = '\x00' then ['\\', '0']
  else if c = '\t' then ['\\', 't']
  else if c = '\r' then ['\\', 'r']
  else if c = '\n' then ['\\', 'n']
  else if c = '\\' ∨ c = mark then ['\\', c]
  else if unprintableRanges.holds c then escapeByNumber c
  else [c]

/-- A text between double quotes. -/
def escaped (t : Text) : Text :=
  '"' :: t.flatMap (escapeChar '"') ++ ['"']

/-- A single character between single quotes. -/
def escapedChar (c : Char) : Text :=
  '\'' :: escapeChar '\'' c ++ ['\'']

end EntityStore.Text
