import EntityStore.Text.Basic

/-!
# UTF-8

The bytes of a text, the cut of a text to a number of bytes, and the reading of bytes as a text with the place of the
first fault.

A cut must not fall inside a character.  It goes back from the greatest number of bytes that is allowed to the nearest
place at which a character begins, which the byte there shows.

The reader walks the bytes once.  Between characters it has no state; inside a character it remembers how many
bytes of it were read, how many are to come, and the range in which the next byte has to lie.  The range of the
second byte depends on the first: it shuts out overlong forms, surrogates and numbers above `10ffff`.
-/

namespace EntityStore

/-- Why bytes are not the UTF-8 form of a text. -/
inductive Utf8Fault where
  /-- A sequence of the given number of bytes at the given index starts no character. -/
  | invalid (length index : Nat)
  /-- The bytes end inside the character that starts at the given index. -/
  | incomplete (index : Nat)
  deriving DecidableEq, Repr

namespace Text

/-- The UTF-8 form of a text. -/
def toUtf8 (t : Text) : List UInt8 :=
  t.flatMap String.utf8EncodeChar

/-- The number of bytes in the UTF-8 form of a text. -/
def utf8Length (t : Text) : Nat :=
  t.foldr (fun c length => c.utf8Size + length) 0

/-- Whether a byte begins a character: those from `80` to `bf` go on with one. -/
def beginsChar (byte : UInt8) : Bool :=
  decide (byte < 0x80) || decide (0xc0 ≤ byte)

/-- Whether a place in bytes lies between two characters or at one of the ends. -/
def isBoundary (bytes : List UInt8) (index : Nat) : Bool :=
  index == 0 ||
    match bytes[index]? with
    | some byte => beginsChar byte
    | none => index == bytes.length

/-- Goes back from a place, byte by byte, until there is a boundary. -/
def backOff (bytes : List UInt8) : Nat → Nat
  | 0 => 0
  | index + 1 => if isBoundary bytes (index + 1) then index + 1 else backOff bytes index

/-- The characters in the given number of bytes at the start of a text.  There are none such if the last byte is
followed by others of the same character, or if the text has fewer bytes. -/
def firstBytes? : Nat → Text → Option Text
  | 0, _ => some []
  | _ + 1, [] => none
  | count + 1, c :: rest =>
    if c.utf8Size ≤ count + 1 then (firstBytes? (count + 1 - c.utf8Size) rest).map (c :: ·) else none

/-- A text cut to at most the given number of bytes, at the last boundary that allows it. -/
def truncate? (limit : Nat) (t : Text) : Option Text :=
  if t.utf8Length ≤ limit then some t else firstBytes? (backOff t.toUtf8 limit) t

/-- A text cut to at most the given number of bytes; nothing if the cut is inside a character. -/
def truncate (limit : Nat) (t : Text) : Text :=
  (truncate? limit t).getD []

/-- A character of which some bytes were read: how many, how many are to come, the bits so far, and the least and
greatest value of the next byte. -/
structure PartialChar where
  seen : Nat
  left : Nat
  bits : Nat
  low : Nat
  high : Nat

/-- What a byte between two characters begins. -/
def leadByte (byte : Nat) : Option (Char ⊕ PartialChar) :=
  if byte < 0x80 then some (.inl (Char.ofNat byte))
  else if byte < 0xc2 then none
  else if byte < 0xe0 then some (.inr ⟨1, 1, byte - 0xc0, 0x80, 0xbf⟩)
  else if byte = 0xe0 then some (.inr ⟨1, 2, 0, 0xa0, 0xbf⟩)
  else if byte = 0xed then some (.inr ⟨1, 2, 0xd, 0x80, 0x9f⟩)
  else if byte < 0xf0 then some (.inr ⟨1, 2, byte - 0xe0, 0x80, 0xbf⟩)
  else if byte = 0xf0 then some (.inr ⟨1, 3, 0, 0x90, 0xbf⟩)
  else if byte < 0xf4 then some (.inr ⟨1, 3, byte - 0xf0, 0x80, 0xbf⟩)
  else if byte = 0xf4 then some (.inr ⟨1, 3, 4, 0x80, 0x8f⟩)
  else none

/-- Reads the bytes from the given index on, inside a character or between two. -/
def readUtf8From (index : Nat) : Option PartialChar → List UInt8 → Except Utf8Fault Text
  | none, [] => .ok []
  | some _, [] => .error (.incomplete index)
  | none, byte :: rest =>
    match leadByte byte.toNat with
    | none => .error (.invalid 1 index)
    | some (.inl c) => (readUtf8From (index + 1) none rest).map (c :: ·)
    | some (.inr start) => readUtf8From index (some start) rest
  | some start, byte :: rest =>
    if start.low ≤ byte.toNat ∧ byte.toNat ≤ start.high then
      let bits := start.bits * 64 + (byte.toNat - 0x80)
      if start.left = 1 then
        (readUtf8From (index + start.seen + 1) none rest).map (Char.ofNat bits :: ·)
      else
        readUtf8From index (some ⟨start.seen + 1, start.left - 1, bits, 0x80, 0xbf⟩) rest
    else .error (.invalid start.seen index)

/-- Reads bytes as a text. -/
def ofUtf8 (bytes : List UInt8) : Except Utf8Fault Text :=
  readUtf8From 0 none bytes

end Text

end EntityStore
