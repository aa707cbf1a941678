import EntityStore.Number.Double

/-!
# Decimals

A decimal is a whole number of at most 96 bits with a scale from 0 to 28, the number of its digits that stand
after the point.  Trailing zeros are kept: `1.10` and `1.1` are different decimals of the same value.
-/

namespace EntityStore

/-- The number of magnitudes that fit into 96 bits. -/
def mantissaBound : Nat := Nat.pow 2 96

theorem le_mantissaBound : 18446744073709551616 ≤ mantissaBound := by decide

/-- The greatest scale. -/
def maxScale : Nat := 28

/-- A decimal number `mantissa / 10 ^ scale`.  The sign is that of the mantissa, so that a zero has none: a negative
zero cannot be represented, and reading one gives the zero of its scale. -/
structure Decimal where
  mantissa : Int
  scale : Nat
  mantissa_lt : mantissa.natAbs < mantissaBound
  scale_le : scale ≤ maxScale
  deriving DecidableEq

namespace Decimal

/-- The decimal with the given mantissa and scale, if both are in range. -/
def ofParts? (mantissa : Int) (scale : Nat) : Option Decimal :=
  if h : mantissa.natAbs < mantissaBound ∧ scale ≤ maxScale then some ⟨mantissa, scale, h.1, h.2⟩ else none

/-- The decimal of a 64-bit whole number. -/
def ofInt64 (i : Int64) : Decimal :=
  ⟨i.toInt, 0, by have := i.toInt_lt; have := i.le_toInt; have := le_mantissaBound; omega, Nat.zero_le _⟩

/-- The decimal of a 64-bit number without sign. -/
def ofUInt64 (u : UInt64) : Decimal :=
  ⟨u.toNat, 0, by have := u.toNat_lt; have := le_mantissaBound; omega, Nat.zero_le _⟩

/-- The whole number that the decimal is, if nothing but zeros stands after its point. -/
def toInt? (d : Decimal) : Option Int :=
  if d.mantissa % Nat.pow 10 d.scale = 0 then some (d.mantissa / Nat.pow 10 d.scale) else none

/-- The double that stands for a magnitude of the given scale.

The whole part and the fraction become doubles of their own, and their sum is brought back to the digits of the scale:
it is multiplied by the power of ten, rounded to a whole number and divided again.  As every step rounds to the
nearest double, the result can be a neighbour of the double nearest to the decimal. -/
def magnitudeToDouble (magnitude scale : Nat) : Double :=
  let unit := Nat.pow 10 scale
  let whole := Double.ofNat (magnitude / unit)
  if magnitude % unit = 0 then whole
  else
    let power := Double.ofNat unit
    let sum := whole.addMagnitudes ((Double.ofNat (magnitude % unit)).divMagnitudes power)
    (sum.mulMagnitudes power).roundMagnitude.divMagnitudes power

/-- The double that stands for the decimal. -/
def toDouble (d : Decimal) : Double :=
  Double.assemble (decide (d.mantissa < 0)) (magnitudeToDouble d.mantissa.natAbs d.scale).bits.toNat

/-- The text of a magnitude with the given number of digits after the point. -/
def magnitudeText (magnitude scale : Nat) : Text :=
  let digits := Text.ofNatPadded (scale + 1) magnitude
  let whole := digits.take (digits.length - scale)
  if scale = 0 then whole else whole ++ '.' :: digits.drop (digits.length - scale)

/-- The text of a decimal: every digit of its scale, and none other, stands after the point. -/
def toText (d : Decimal) : Text :=
  if d.mantissa < 0 then '-' :: magnitudeText d.mantissa.natAbs d.scale
  else magnitudeText d.mantissa.natAbs d.scale

/-! ## Reading -/

/-- Rounds by the first digit that has no room.  A carry that itself has no room costs one digit of scale. -/
def roundAt (mantissa scale digit : Nat) : Option (Nat × Nat) :=
  if digit < 5 then some (mantissa, scale)
  else if mantissa + 1 < mantissaBound then some (mantissa + 1, scale)
  else if scale = 0 then none
  else some ((mantissa + 5) / 10, scale - 1)

/-- Whether nothing but digits and underscores is left. -/
def isFiller (rest : Text) : Bool :=
  rest.all fun c => c.isDigit || c == '_'

/-- Mantissas from here on are no longer extended in a single word of 64 bits. -/
def longMantissa : Nat := 1844674407370954906

/-- Goes on after the last digit for which the scale has room.  The next digit rounds.  An underscore before it ends a
short mantissa, and is skipped after a long one. -/
def readPastScale (mantissa scale : Nat) : Text → Option (Nat × Nat)
  | [] => some (mantissa, scale)
  | c :: rest =>
    if c.isDigit then
      if isFiller rest then roundAt mantissa scale (c.toNat - '0'.toNat) else none
    else if c = '_' then
      if longMantissa ≤ mantissa / 10 then readPastScale mantissa scale rest
      else if isFiller rest then some (mantissa, scale)
      else none
    else none

/-- Reads the digits of an unsigned decimal, given whether the point and whether a digit was seen, the mantissa and
the scale so far.  Underscores may stand anywhere after the first digit.  A digit after the point for which the
mantissa has no room rounds it, and what follows such a digit is checked but does not count. -/
def readDigits (pointSeen digitSeen : Bool) (mantissa scale : Nat) : Text → Option (Nat × Nat)
  | [] => if digitSeen then some (mantissa, scale) else none
  | c :: rest =>
    if c.isDigit then
      let digit := c.toNat - '0'.toNat
      let next := mantissa * 10 + digit
      if mantissaBound ≤ next then
        if pointSeen && isFiller rest then roundAt mantissa scale digit else none
      else if pointSeen && decide (maxScale ≤ scale + 1) then readPastScale next (scale + 1) rest
      else readDigits pointSeen true next (if pointSeen then scale + 1 else 0) rest
    else if c = '_' && digitSeen then readDigits pointSeen digitSeen mantissa scale rest
    else if c = '.' && !pointSeen then readDigits true digitSeen mantissa scale rest
    else none

/-- Reads a decimal without exponent: a sign or none, then digits with at most one point. -/
def readPlain? (t : Text) : Option Decimal :=
  let unsigned (rest : Text) (sign : Int) := do
    let (mantissa, scale) ← readDigits false false 0 0 rest
    ofParts? (sign * mantissa) scale
  match t with
  | '-' :: rest => unsigned rest (-1)
  | '+' :: rest => unsigned rest 1
  | rest => unsigned rest 1

/-- Moves the point of a decimal to the left, by 28 places at most.  Digits for which the scale has no room are
dropped, and the mantissa is rounded to the nearest, a tie away from zero. -/
def lowered? (d : Decimal) (places : Nat) : Option Decimal :=
  if maxScale < places then none
  else if d.scale + places ≤ maxScale then ofParts? d.mantissa (d.scale + places)
  else
    let dropped := Nat.pow 10 (d.scale + places - maxScale)
    ofParts? (d.mantissa.sign * Double.halfUpQuotient d.mantissa.natAbs dropped) maxScale

/-- Moves the point of a decimal to the right, by 28 places at most. -/
def raised? (d : Decimal) (places : Nat) : Option Decimal :=
  if maxScale < places then none
  else if places ≤ d.scale then ofParts? d.mantissa (d.scale - places)
  else ofParts? (d.mantissa * Nat.pow 10 (places - d.scale)) 0

/-- Reads a decimal, with or without an exponent. -/
def read? (t : Text) : Option Decimal :=
  let base := t.takeWhile fun c => c != 'e' && c != 'E'
  match t.drop base.length with
  | [] => readPlain? base
  | _ :: exponent => do
    let d ← readPlain? base
    match exponent with
    | '-' :: places =>
      let places := if places.head? = some '+' then places.tail else places
      lowered? d (← Text.readNat? places)
    | places =>
      let places := if places.head? = some '+' then places.tail else places
      raised? d (← Text.readNat? places)

/-! ## From doubles -/

/-- Trades factors of a half for factors of a tenth: a number that is to be halved so many times is halved, or takes a
factor five and one place after the point.  Where neither works exactly in 96 bits, the lowest bit is lost.  The
result is the number that is left and its places after the point. -/
def spendHalves : Nat → Nat → Nat → Nat × Nat
  | 0, m, scale => (m, scale)
  | halves + 1, m, scale =>
    if m % 2 = 1 ∧ m * 5 < mantissaBound then spendHalves halves (m * 5) (scale + 1)
    else spendHalves halves (m / 2) scale

/-- Drops the last digit and rounds a half up. -/
def dropDigit (m : Nat) : Nat :=
  m / 10 + (if 5 ≤ m % 10 then 1 else 0)

/-- Brings a scale down to 28; a number that vanishes on the way is zero with scale zero. -/
def fitScale : Nat → Nat → Nat → Nat × Nat
  | 0, m, scale => (m, scale)
  | steps + 1, m, scale =>
    if m / 10 = 0 then (0, 0) else fitScale steps (dropDigit m) (scale - 1)

/-- Drops digits after the point while the mantissa has more than 52 bits. -/
def dropExcess (m : Nat) : Nat → Nat × Nat
  | 0 => (m, 0)
  | scale + 1 => if Double.exponentWeight ≤ m then dropExcess (dropDigit m) scale else (m, scale + 1)

/-- Drops zeros after the point. -/
def dropZeros (m : Nat) : Nat → Nat × Nat
  | 0 => (m, 0)
  | scale + 1 => if m % 10 = 0 then dropZeros (m / 10) scale else (m, scale + 1)

/-- The decimal that a finite double stands for, to the precision of a double.

A double without fraction is the decimal of the same value, if that is in range.  Otherwise the negative power of two
is worked into the mantissa as fives and into the scale as tens. -/
def ofDouble? (d : Double) : Option Decimal :=
  let signed (m : Nat) : Int := if d.isNegative then -m else m
  if !d.isFinite then none
  else if d.significand = 0 then ofParts? 0 0
  else
    match d.exponent with
    | .ofNat e => ofParts? (signed (d.significand * Nat.pow 2 e)) 0
    | .negSucc e =>
      let (m, scale) := spendHalves (e + 1) d.significand 0
      let (m, scale) := fitScale (scale - maxScale) m scale
      let (m, scale) := dropExcess m scale
      let (m, scale) := dropZeros m scale
      ofParts? (signed m) scale

end Decimal

end EntityStore
