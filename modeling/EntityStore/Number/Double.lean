import EntityStore.Text.Digits

/-!
# Doubles

A double is its 64 bits: a sign, an exponent of eleven bits and a fraction of fifty-two.  A finite double is a
whole number `significand` times a power of two, and all arithmetic here is exact arithmetic on these two numbers.
The converse direction rounds a quotient of whole numbers to the nearest double, a tie to the even significand, and
so do sums, products and quotients of doubles.
-/

namespace EntityStore

/-- A double-precision number by its bits. -/
structure Double where
  bits : UInt64
  deriving DecidableEq, Repr

namespace Double

/-- The weight of the sign bit. -/
def signWeight : Nat := Nat.pow 2 63

/-- The weight of the lowest exponent bit, which is the number of fractions. -/
def exponentWeight : Nat := Nat.pow 2 52

/-- The exponent bits of infinite doubles and of NaNs, which are all set. -/
def topExponent : Nat := 2047

/-- Whether the sign bit is set. -/
def isNegative (d : Double) : Bool :=
  decide (signWeight ≤ d.bits.toNat)

/-- The eleven exponent bits. -/
def exponentBits (d : Double) : Nat :=
  d.bits.toNat / exponentWeight % (topExponent + 1)

/-- The fifty-two fraction bits. -/
def fractionBits (d : Double) : Nat :=
  d.bits.toNat % exponentWeight

/-- Neither infinite nor a NaN. -/
def isFinite (d : Double) : Bool :=
  d.exponentBits != topExponent

/-- Not a number. -/
def isNaN (d : Double) : Bool :=
  d.exponentBits == topExponent && d.fractionBits != 0

/-- The whole number that a power of two scales to the magnitude of a finite double. -/
def significand (d : Double) : Nat :=
  if d.exponentBits = 0 then d.fractionBits else exponentWeight + d.fractionBits

/-- The exponent of the power of two. -/
def exponent (d : Double) : Int :=
  if d.exponentBits = 0 then -1074 else d.exponentBits - 1075

/-- The magnitude of a finite double as a quotient of whole numbers. -/
def magnitude (d : Double) : Nat × Nat :=
  match d.exponent with
  | .ofNat e => (d.significand * Nat.pow 2 e, 1)
  | .negSucc e => (d.significand, Nat.pow 2 (e + 1))

/-- The whole number that the double is, if it is one. -/
def toInt? (d : Double) : Option Int :=
  if d.isFinite then
    let signed (n : Nat) : Int := if d.isNegative then -n else n
    match d.exponent with
    | .ofNat e => some (signed (d.significand * Nat.pow 2 e))
    | .negSucc e =>
      if d.significand % Nat.pow 2 (e + 1) = 0 then some (signed (d.significand / Nat.pow 2 (e + 1))) else none
  else none

/-- The double with the given sign and parts; the exponent bits stand above the fraction bits. -/
def assemble (negative : Bool) (magnitude : Nat) : Double :=
  ⟨UInt64.ofNat (magnitude + if negative then signWeight else 0)⟩

/-- The infinite double of the given sign. -/
def infinite (negative : Bool) : Double :=
  assemble negative (topExponent * exponentWeight)

/-- The NaN whose only fraction bit is the highest. -/
def nan : Double :=
  ⟨0x7ff8000000000000⟩

/-- The number of binary digits. -/
def bitLength (n : Nat) : Nat :=
  if n = 0 then 0 else n.log2 + 1

/-- A quotient rounded to the nearest whole number, a tie to the even one. -/
def roundedQuotient (numerator denominator : Nat) : Nat :=
  let q := numerator / denominator
  let twice := 2 * (numerator % denominator)
  if twice < denominator then q
  else if denominator < twice then q + 1
  else if q % 2 = 0 then q else q + 1

/-- A quotient rounded to the nearest whole number, a tie upwards. -/
def halfUpQuotient (numerator denominator : Nat) : Nat :=
  (2 * numerator + denominator) / (2 * denominator)

/-- The double nearest to a quotient of whole numbers.

The exponent is chosen so that the scaled quotient has 53 binary digits, or fewer at the least exponent.  A carry
out of the significand moves into the exponent bits, and out of the greatest exponent into those of infinity. -/
def ofQuotient (negative : Bool) (numerator denominator : Nat) : Double :=
  if numerator = 0 then assemble negative 0
  else
    let estimate : Int := bitLength numerator - bitLength denominator
    let fits := if 0 ≤ estimate then denominator * Nat.pow 2 estimate.toNat ≤ numerator
      else denominator ≤ numerator * Nat.pow 2 (-estimate).toNat
    let magnitude : Int := if fits then estimate else estimate - 1
    let e : Int := max (magnitude - 52) (-1074)
    let significand := if 0 ≤ e then roundedQuotient numerator (denominator * Nat.pow 2 e.toNat)
      else roundedQuotient (numerator * Nat.pow 2 (-e).toNat) denominator
    let raised := (e + 1074).toNat * exponentWeight + significand
    assemble negative (min raised (topExponent * exponentWeight))

/-- The double nearest to a whole number. -/
def ofInt (i : Int) : Double :=
  ofQuotient (decide (i < 0)) i.natAbs 1

/-- The double nearest to a number that is not negative. -/
def ofNat (n : Nat) : Double :=
  ofQuotient false n 1

/-! ## Arithmetic on magnitudes

Each operation takes the magnitudes of finite doubles and rounds the exact result to the nearest double. -/

/-- The sum of two magnitudes. -/
def addMagnitudes (x y : Double) : Double :=
  ofQuotient false (x.magnitude.1 * y.magnitude.2 + y.magnitude.1 * x.magnitude.2)
    (x.magnitude.2 * y.magnitude.2)

/-- The product of two magnitudes. -/
def mulMagnitudes (x y : Double) : Double :=
  ofQuotient false (x.magnitude.1 * y.magnitude.1) (x.magnitude.2 * y.magnitude.2)

/-- The quotient of two magnitudes, the second of which is not zero. -/
def divMagnitudes (x y : Double) : Double :=
  ofQuotient false (x.magnitude.1 * y.magnitude.2) (x.magnitude.2 * y.magnitude.1)

/-- The whole number nearest to a magnitude, a tie upwards. -/
def roundMagnitude (x : Double) : Double :=
  ofNat (halfUpQuotient x.magnitude.1 x.magnitude.2)

/-! ## Single precision -/

/-- The double equal to a single-precision number given by its 32 bits: a sign, eight exponent bits and twenty-three
fraction bits. -/
def ofSingle (bits : UInt32) : Double :=
  let negative := decide (Nat.pow 2 31 ≤ bits.toNat)
  let exponentBits := bits.toNat / Nat.pow 2 23 % 256
  let fraction := bits.toNat % Nat.pow 2 23
  if exponentBits = 255 then
    if fraction = 0 then infinite negative else nan
  else
    let significand := if exponentBits = 0 then fraction else Nat.pow 2 23 + fraction
    let power := if exponentBits = 0 then 1 else exponentBits
    ofQuotient negative (significand * Nat.pow 2 power) (Nat.pow 2 150)

end Double

end EntityStore
