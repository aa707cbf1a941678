import EntityStore.Text.Basic

/-!
# White space

The characters with the Unicode property White_Space, and the removal of a run of them at the ends of a text.
-/

namespace EntityStore.Text

/-- The inclusive ranges of the characters that are white space. -/
def blankRanges : List (Nat × Nat) :=
  [(0x09, 0x0d), (0x20, 0x20), (0x85, 0x85), (0xa0, 0xa0), (0x1680, 0x1680), (0x2000, 0x200a), (0x2028, 0x2029),
    (0x202f, 0x202f), (0x205f, 0x205f), (0x3000, 0x3000)]

/-- Whether a character is white space. -/
def isBlank (c : Char) : Bool :=
  blankRanges.any fun (low, high) => decide (low ≤ c.toNat) && decide (c.toNat ≤ high)

/-- The text without the white space at its start. -/
def trimStart (t : Text) : Text :=
  t.dropWhile isBlank

/-- The text without the white space at its end. -/
def trimEnd (t : Text) : Text :=
  (t.reverse.dropWhile isBlank).reverse

/-- The text without the white space at its start and at its end. -/
def trim (t : Text) : Text :=
  t.trimStart.trimEnd

end EntityStore.Text
