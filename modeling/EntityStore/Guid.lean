import EntityStore.Text.Digits

/-!
# Guids

A guid is thirty-two hexadecimal digits.  Its text has hyphens after the eighth, twelfth, sixteenth and twentieth
digit.  The reader takes that text, also in braces or after `urn:uuid:`, and the digits alone.
-/

namespace EntityStore

/-- Thirty-two hexadecimal digits. -/
structure Guid where
  digits : List (Fin 16)
  length_eq : digits.length = 32
  deriving DecidableEq

namespace Guid

/-- The guid with the given digits, if there are thirty-two. -/
def ofDigits? (digits : List (Fin 16)) : Option Guid :=
  if h : digits.length = 32 then some ⟨digits, h⟩ else none

/-- The guid whose digits are all zero. -/
def zero : Guid :=
  ⟨List.replicate 32 ⟨0, by decide⟩, by simp⟩

/-- The guid with the given sixteen bytes, two digits to the byte. -/
def ofBytes? (bytes : List UInt8) : Option Guid :=
  ofDigits? (bytes.flatMap fun b => [Text.hexValue (b.toNat / 16), Text.hexValue b.toNat])

/-- The digits of a guid as characters. -/
def plainText (g : Guid) : Text :=
  g.digits.map Text.hexDigit

/-- The text of a guid: five groups of digits with hyphens between them. -/
def toText (g : Guid) : Text :=
  let t := g.plainText
  t.take 8 ++ '-' :: (t.drop 8).take 4 ++ '-' :: (t.drop 12).take 4 ++ '-' :: (t.drop 16).take 4 ++ '-' :: t.drop 20

/-- Reads thirty-two digits. -/
def readPlain? (t : Text) : Option Guid := do
  ofDigits? (← t.mapM Text.hexDigitValue?)

/-- Reads five hyphenated groups. -/
def readHyphenated? (t : Text) : Option Guid :=
  let hyphen (i : Nat) := t[i]? == some '-'
  if t.length = 36 && hyphen 8 && hyphen 13 && hyphen 18 && hyphen 23 then
    readPlain? (t.take 8 ++ (t.drop 9).take 4 ++ (t.drop 14).take 4 ++ (t.drop 19).take 4 ++ t.drop 24)
  else none

/-- The mark before a guid in a uniform resource name, in letters of either case. -/
def resourceMark : Text := "urn:uuid:".toList

/-- Reads a guid. -/
def read? (t : Text) : Option Guid :=
  match t with
  | '{' :: rest => if rest.getLast? = some '}' then readHyphenated? rest.dropLast else none
  | _ =>
    if Text.equalIgnoringCase (t.take resourceMark.length) resourceMark then
      readHyphenated? (t.drop resourceMark.length)
    else if t.length = 36 then readHyphenated? t
    else readPlain? t

end Guid

end EntityStore
